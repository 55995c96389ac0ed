import StaticSite.Proofs.Spec.Entry
import StaticSite.Spec.Pages

/-!
# Sections of a page file

Reading a page file goes through the lines with a state: the pages so far, the section that is being
read, and whether its entries define variables. A header makes the rest of that state forget all
that came before it: behind a header, two readers that know different earlier pages do the same,
and differ in those pages only (`Continues`).

So a page file may be cut before any header. The two parts are read apart, and the pages of the
second one replace those of the first one that have their names (`result_parsePages_append`).
-/

namespace StaticSite

/-- The error as it is for lines that `n` other lines stand before. -/
def BuildError.laterBy (n : Nat) : BuildError → BuildError
  | .malformedLine number line => .malformedLine (n + number) line
  | e => e

namespace Spec

/-! ## Lines -/

/-- The bytes of a file that is empty or ends with a line break. -/
def EndsInLineBreak (content : ByteArray) : Prop :=
  content.data.toList = [] ∨ content.data.toList.getLast? = some 10

/-- Whether the first line that is not blank begins with a square bracket. A line that cannot be
read is as good as one that does. -/
def beginsWithHeader : List Line → Bool
  | [] => true
  | none :: _ => true
  | some text :: lines =>
    if text.isEmpty then beginsWithHeader lines else text.head? = some '['

theorem splitLines_append_lineBreak (piece before after : List UInt8) :
    splitLines piece (before ++ 10 :: after) =
      splitLines piece (before ++ [10]) ++ splitLines [] after := by
  induction before generalizing piece with
  | nil => simp [splitLines]
  | cons b before ih =>
    rw [List.cons_append, List.cons_append, splitLines, splitLines]
    by_cases hb : b = 10
    · rw [if_pos hb, if_pos hb, ih, List.cons_append]
    · rw [if_neg hb, if_neg hb, ih]

/-- The lines of two files, the first of which ends with a line break, stand one behind the
other. -/
theorem linesOfBytes_append {first : ByteArray} (hends : EndsInLineBreak first)
    (second : ByteArray) :
    linesOfBytes (first ++ second) = linesOfBytes first ++ linesOfBytes second := by
  have hbytes : (first ++ second).data.toList = first.data.toList ++ second.data.toList := by
    rw [ByteArray.data_append, Array.toList_append]
  unfold linesOfBytes
  rw [hbytes]
  rcases hends with hempty | hlast
  · rw [hempty]
    rfl
  · obtain ⟨before, hbefore⟩ := List.getLast?_eq_some_iff.mp hlast
    rw [hbefore, List.append_assoc, List.singleton_append, splitLines_append_lineBreak,
      List.map_append]

namespace PagesState

variable {source : ContentSource}

/-- The pages that are found by reading lines from a state on. -/
def pagesOf (source : ContentSource) (number : Nat) (lines : List Line) (s : PagesState) :
    Except BuildError PageSet :=
  (readLines source number lines s).result.map PagesState.pages

theorem pagesOf_cons (number : Nat) (line : Line) (lines : List Line) (s : PagesState) :
    pagesOf source number (line :: lines) s =
      (readLine source number line s).result.bind (pagesOf source (number + 1) lines) := by
  unfold pagesOf
  rw [readLines, Outcome.result_andThen]
  cases (readLine source number line s).result <;> rfl

theorem result_readLines_append (number : Nat) (before after : List Line) (s : PagesState) :
    (readLines source number (before ++ after) s).result =
      (readLines source number before s).result.bind fun middle =>
        (readLines source (number + before.length) after middle).result :=
  result_run_append (readLine source) (readLines source) (fun _ _ => rfl) (fun _ _ _ _ => rfl)
    number before after s

theorem pagesOf_append (number : Nat) (before after : List Line) (s : PagesState) :
    pagesOf source number (before ++ after) s =
      (readLines source number before s).result.bind
        (pagesOf source (number + before.length) after) := by
  unfold pagesOf
  rw [result_readLines_append]
  cases (readLines source number before s).result <;> rfl

theorem result_parsePages (lines : List Line) :
    (parsePages source lines).result = pagesOf source 1 lines {} := by
  unfold parsePages pagesOf
  rw [Outcome.result_andThen]
  cases (readLines source 1 lines {}).result <;> rfl

/-! ## One line behind a header -/

/-- Two readers are at the same place of one section. The second one knows the pages of the sections
since some header only, the first one also those before. -/
structure Continues (earlier : PageSet) (whole alone : PagesState) : Prop where
  /-- The pages since the header replace the earlier ones. -/
  pages_eq : whole.pages = earlier.union alone.pages
  /-- Both read the same section. -/
  current_eq : whole.current = alone.current
  /-- Both take entries for variables, or none of them does. -/
  inVariables_eq : whole.inVariables = alone.inVariables
  /-- The section began behind the header. -/
  exists_page : ∃ name page, alone.current = some name ∧ alone.pages.find? name = some page

/-- What a reader that knows earlier pages does with a line, when one that does not know them does
`alone` with it. -/
inductive ContinuesResult (n : Nat) (earlier : PageSet) :
    Except BuildError PagesState → Except BuildError PagesState → Prop
  /-- Both refuse the line. -/
  | error (e : BuildError) : ContinuesResult n earlier (.error (e.laterBy n)) (.error e)
  /-- Both go on. -/
  | ok {whole alone : PagesState} (h : Continues earlier whole alone) :
    ContinuesResult n earlier (.ok whole) (.ok alone)

section Continues

variable {n number : Nat} {earlier : PageSet} {whole alone : PagesState}

/-- The record of the section that is being read may be changed, if it is for both. -/
theorem continues_insert (hpages : whole.pages = earlier.union alone.pages) (name : Text)
    (page : Page) (inVariables : Bool) :
    Continues earlier ⟨whole.pages.insert name page, some name, inVariables⟩
      ⟨alone.pages.insert name page, some name, inVariables⟩ where
  pages_eq := by rw [hpages, Dictionary.union_insert]
  current_eq := rfl
  inVariables_eq := rfl
  exists_page := ⟨name, page, rfl, by rw [Dictionary.find?_insert, if_pos rfl]⟩

/-- A header begins a section for both, whatever they did before. -/
theorem continues_beginSection (hpages : whole.pages = earlier.union alone.pages) (name : Text) :
    ContinuesResult n earlier (beginSection name whole).result (beginSection name alone).result :=
  .ok (continues_insert hpages name {} false)

/-- Only the errors of lines have a number. -/
theorem laterBy_of_readField {page : Page} {name key value : Text} {e : BuildError}
    (h : (readField source name page key value).result = .error e) : e.laterBy n = e := by
  unfold readField at h
  -- seven fields are taken as they are written
  iterate 7 (split at h; · cases h)
  split at h
  · unfold readContent at h
    split at h
    · cases h
      rfl
    · cases h
  · cases h
    rfl

theorem Continues.readEntry (h : Continues earlier whole alone) (text : Text) :
    ContinuesResult n earlier (readEntry source (n + number) text whole).result
      (readEntry source number text alone).result := by
  unfold PagesState.readEntry
  by_cases hentry : ∃ key value, IsEntry text key value
  · obtain ⟨key, value, hentry⟩ := hentry
    obtain ⟨name, page, hname, hpage⟩ := h.exists_page
    have hwhole : whole.pages.find? name = some page := by
      rw [h.pages_eq, Dictionary.find?_union, hpage]
      rfl
    rw [entry_eq_ok_iff.mpr hentry, entry_eq_ok_iff.mpr hentry, h.current_eq, hname]
    simp only [hpage, hwhole, h.inVariables_eq]
    by_cases hvariables : alone.inVariables = true
    · rw [if_pos hvariables, if_pos hvariables]
      exact .ok (continues_insert h.pages_eq name _ _)
    · rw [if_neg hvariables, if_neg hvariables, Outcome.result_andThen, Outcome.result_andThen]
      cases hfield : (readField source name page key value).result with
      | error e =>
        have herror : ContinuesResult n earlier (.error (e.laterBy n)) (.error e) := .error e
        rwa [laterBy_of_readField hfield] at herror
      | ok changed => exact .ok (continues_insert h.pages_eq name changed _)
  · have hnone : ∀ key value, ¬ IsEntry text key value := fun key value h => hentry ⟨key, value, h⟩
    rw [entry_eq_error hnone, entry_eq_error hnone]
    exact .error (.malformedLine number (some text))

/-- The step lemma: readers at the same place of a section do the same with a line. -/
theorem Continues.readLine (h : Continues earlier whole alone) (line : Line) :
    ContinuesResult n earlier (readLine source (n + number) line whole).result
      (readLine source number line alone).result := by
  cases line with
  | none => exact .error (.malformedLine number none)
  | some text =>
    unfold PagesState.readLine
    by_cases hempty : text.isEmpty = true
    · simp only [hempty, if_true]
      exact .ok h
    · simp only [hempty]
      cases header? text with
      | some closed =>
        cases closed with
        | none => exact .error (.malformedLine number (some text))
        | some name => exact continues_beginSection h.pages_eq name
      | none =>
        by_cases hvariables : text = variablesLine
        · simp only [hvariables, if_true]
          exact .ok ⟨h.pages_eq, h.current_eq, rfl, h.exists_page⟩
        · simp only [hvariables, if_false]
          exact h.readEntry text

end Continues

/-! ## Lines behind a header -/

/-- What is found by a reader that knows earlier pages, when one that does not know them finds
`alone`. -/
def foundAfter (n : Nat) (earlier : PageSet) (alone : Except BuildError PageSet) :
    Except BuildError PageSet :=
  match alone with
  | .error e => .error (e.laterBy n)
  | .ok later => .ok (earlier.union later)

section Lines

variable {n : Nat} {earlier : PageSet} {whole alone : PagesState}

/-- Going on with the same lines after a line that both readers did the same with. -/
theorem ContinuesResult.bind_pagesOf {number : Nat} {lines : List Line}
    {a b : Except BuildError PagesState} (h : ContinuesResult n earlier a b)
    (hlines : ∀ whole alone, Continues earlier whole alone →
      pagesOf source (n + number) lines whole =
        foundAfter n earlier (pagesOf source number lines alone)) :
    a.bind (pagesOf source (n + number) lines) =
      foundAfter n earlier (b.bind (pagesOf source number lines)) := by
  cases h with
  | error e => rfl
  | ok h => exact hlines _ _ h

/-- The run lemma: readers at the same place of a section find the same from there on. -/
theorem Continues.pagesOf_eq (h : Continues earlier whole alone) (number : Nat)
    (lines : List Line) :
    pagesOf source (n + number) lines whole =
      foundAfter n earlier (pagesOf source number lines alone) := by
  induction lines generalizing number whole alone with
  | nil => exact congrArg Except.ok h.pages_eq
  | cons line lines ih =>
    rw [pagesOf_cons, pagesOf_cons, Nat.add_assoc]
    exact (h.readLine line).bind_pagesOf fun _ _ hnext => ih hnext (number + 1)

/-- Lines that begin with a header are read as by a new reader, whatever was read before. -/
theorem pagesOf_of_beginsWithHeader {lines : List Line} (hbegins : beginsWithHeader lines = true)
    (number : Nat) (whole : PagesState) :
    pagesOf source (n + number) lines whole =
      foundAfter n whole.pages (pagesOf source number lines {}) := by
  induction lines generalizing number with
  | nil => exact congrArg Except.ok (Dictionary.union_empty whole.pages).symm
  | cons line lines ih =>
    rw [pagesOf_cons, pagesOf_cons, Nat.add_assoc]
    cases line with
    | none => rfl
    | some text =>
      unfold PagesState.readLine
      rw [beginsWithHeader] at hbegins
      by_cases hempty : text.isEmpty = true
      · -- a blank line leaves both readers as they are
        rw [if_pos hempty] at hbegins
        simp only [hempty, if_true]
        exact ih hbegins (number + 1)
      · rw [if_neg hempty] at hbegins
        obtain ⟨rest, rfl⟩ : ∃ rest, text = '[' :: rest :=
          List.head?_eq_some_iff.mp (by simpa using hbegins)
        simp only [hempty, header?]
        cases Text.dropEnd? [']'] rest with
        | none => rfl
        | some name =>
          have hpages : whole.pages = whole.pages.union ({} : PagesState).pages := rfl
          exact (continues_beginSection hpages name).bind_pagesOf fun _ _ hnext =>
            hnext.pagesOf_eq (number + 1) lines

end Lines

/-- A page file may be cut before a header. If the first part is refused, so is the whole, for the
same reason; else if the second part is, the whole is refused for that, with the number that the
line has in the whole. Otherwise the whole has the pages of both parts, and a page of the second
part stands in place of one of the first part with its name. -/
theorem result_parsePages_append (source : ContentSource) {first second : ByteArray}
    (hends : EndsInLineBreak first) (hbegins : beginsWithHeader (linesOfBytes second) = true) :
    (parsePages source (linesOfBytes (first ++ second))).result =
      match (parsePages source (linesOfBytes first)).result with
      | .error e => .error e
      | .ok earlier =>
        match (parsePages source (linesOfBytes second)).result with
        | .error e => .error (e.laterBy (linesOfBytes first).length)
        | .ok later => .ok (earlier.union later) := by
  rw [result_parsePages, result_parsePages, result_parsePages, linesOfBytes_append hends,
    pagesOf_append]
  have hfirst : pagesOf source 1 (linesOfBytes first) {} =
      (readLines source 1 (linesOfBytes first) {}).result.map PagesState.pages := rfl
  rw [hfirst]
  cases (readLines source 1 (linesOfBytes first) {}).result with
  | error e => rfl
  | ok whole =>
    rw [Nat.add_comm]
    show pagesOf source ((linesOfBytes first).length + 1) (linesOfBytes second) whole = _
    rw [pagesOf_of_beginsWithHeader hbegins]
    rfl

/-- The sixth line of the whole is the third one of the second part. -/
theorem result_parsePages_append_malformed :
    let source : ContentSource :=
      { contentPath := id, content := fun _ => .error .notFound,
        preview := fun _ => .error .notFound, line := fun _ => .error .notFound }
    let first := Text.encode "[a]\nvariables:\nx: 1\n".toList
    let second := Text.encode "\n[a]\nbroken".toList
    EndsInLineBreak first ∧ beginsWithHeader (linesOfBytes second) = true ∧
      (parsePages source (linesOfBytes (first ++ second))).result =
        .error (.malformedLine 6 (some "broken".toList)) := by
  intro source first second
  have hends : EndsInLineBreak first := .inr rfl
  have hbegins : beginsWithHeader (linesOfBytes second) = true := rfl
  refine ⟨hends, hbegins, ?_⟩
  rw [result_parsePages_append source hends hbegins]
  rfl

end PagesState

end Spec

end StaticSite
