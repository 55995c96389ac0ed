import StaticSite.Proofs.Spec.Records
import StaticSite.Proofs.Spec.Sections

/-!
# Which page files are read

Whether a line is accepted depends on the lines before it only through the section that they end in,
and on whether `variables:` stands among the lines of that section (`Accepts`). A line that is not
accepted is refused for one reason (`Offence`), and the first such line of a page file is the reason
why the file is (`FirstOffence`).

The reader follows this with less: the name of the section, a flag, and the pages so far. What it
knows is `Reached`. It finds a page for each section that has begun, so no entry goes missing.
-/

namespace StaticSite.Spec

/-- The lines that the grammar of page files lets stand behind others. -/
inductive Fits (source : ContentSource) (before : List Line) : Text → Prop
  | ofHeader (name : Text) : Fits source before (header name)
  | ofVariables : Fits source before variablesLine
  | ofVariable {text key value name : Text} {since : List Line}
      (hin : InSection before name since) (hvariables : some variablesLine ∈ since)
      (hentry : IsEntry text key value) : Fits source before text
  | ofField {text key value name : Text} {since : List Line}
      (hin : InSection before name since) (hfields : some variablesLine ∉ since)
      (hentry : IsEntry text key value) (hkey : key ∈ fieldKeys)
      (hcontent : key = contentKey → ∃ content, source.content value = .ok content) :
      Fits source before text

def FitsOrBlank (source : ContentSource) (before : List Line) (line : Line) : Prop :=
  ∃ text, line = some text ∧ (text = [] ∨ Fits source before text)

/-- What is read: lines that fit or are blank, but of those with a square bracket at the beginning
only the headers. -/
structure Accepts (source : ContentSource) (before : List Line) (line : Line) : Prop where
  fitsOrBlank : FitsOrBlank source before line
  closed : ∀ text, line = some text → text.head? = some '[' → ∃ name, text = header name

/-- Each line has a property of the lines before it and itself. -/
def Throughout (P : List Line → Line → Prop) (lines : List Line) : Prop :=
  ∀ before line after, lines = before ++ line :: after → P before line

/-- Why a line is refused behind others. -/
inductive Offence (source : ContentSource) (before : List Line) : Line → BuildError → Prop
  | unreadable : Offence source before none (.malformedLine (before.length + 1) none)
  /-- It begins like a header, but is not closed. -/
  | notClosed {text : Text} (hbracket : text.head? = some '[')
      (hopen : ∀ name, text ≠ header name) :
      Offence source before (some text) (.malformedLine (before.length + 1) (some text))
  /-- It is none of the other lines, and not an entry. -/
  | noEntry {text : Text} (hbracket : text.head? ≠ some '[') (hblank : text ≠ [])
      (hvariables : text ≠ variablesLine) (hentry : ∀ key value, ¬ IsEntry text key value) :
      Offence source before (some text) (.malformedLine (before.length + 1) (some text))
  /-- It is an entry before all sections. -/
  | noSection {text key value : Text} (hbracket : text.head? ≠ some '[')
      (hentry : IsEntry text key value) (hnone : ∀ name since, ¬ InSection before name since) :
      Offence source before (some text) (.malformedLine (before.length + 1) (some text))
  | unknownField {text key value name : Text} {since : List Line} (hbracket : text.head? ≠ some '[')
      (hentry : IsEntry text key value) (hin : InSection before name since)
      (hfields : some variablesLine ∉ since) (hkey : key ∉ fieldKeys) :
      Offence source before (some text) (.unknownField name key)
  | contentNotFound {text value name : Text} {since : List Line} {cause : FileError}
      (hbracket : text.head? ≠ some '[') (hentry : IsEntry text contentKey value)
      (hin : InSection before name since) (hfields : some variablesLine ∉ since)
      (hcontent : source.content value = .error cause) :
      Offence source before (some text)
        (.contentNotFound name (source.contentPath value) cause)

/-- The first line that is not accepted is refused for a reason. -/
def FirstOffence (source : ContentSource) (lines : List Line) (e : BuildError) : Prop :=
  ∃ before line after, lines = before ++ line :: after ∧ Throughout (Accepts source) before ∧
    ¬ Accepts source before line ∧ Offence source before line e

/-- The pages are those that have a header, and each one is what its last section says. -/
structure HoldsAll (source : ContentSource) (lines : List Line) (pages : PageSet) : Prop where
  /-- There is a page for each header, and no other. -/
  contains_iff : ∀ name, pages.contains name = true ↔ some (header name) ∈ lines
  describes : ∀ name since, IsLastSection lines name since →
    ∃ page, pages.find? name = some page ∧ Describes source since page

/-! ## Lines -/

section Lines

variable {source : ContentSource} {lines : List Line} {line : Line} {e : BuildError}

theorem throughout_nil (P : List Line → Line → Prop) : Throughout P [] := by
  intro before line after h
  simp at h

theorem throughout_concat_iff {P : List Line → Line → Prop} :
    Throughout P (lines ++ [line]) ↔ Throughout P lines ∧ P lines line := by
  constructor
  · intro h
    refine ⟨fun before other after hlines => ?_, h lines line [] rfl⟩
    refine h before other (after ++ [line]) ?_
    rw [hlines]
    simp
  · rintro ⟨hlines, hline⟩ before other after h
    rcases append_singleton_eq_append_cons h with ⟨-, rfl, rfl⟩ | ⟨rest, -, rfl⟩
    · exact hline
    · exact hlines before other rest rfl

theorem accepts_blank (source : ContentSource) (before : List Line) :
    Accepts source before (some []) where
  fitsOrBlank := ⟨[], rfl, .inl rfl⟩
  closed _ h hbracket := by
    cases h
    cases hbracket

theorem accepts_header (source : ContentSource) (before : List Line) (name : Text) :
    Accepts source before (some (header name)) where
  fitsOrBlank := ⟨_, rfl, .inr (.ofHeader name)⟩
  closed _ h _ := ⟨name, (Option.some.inj h).symm⟩

theorem Fits.accepts {before : List Line} {text : Text} (h : Fits source before text)
    (hbracket : text.head? ≠ some '[') : Accepts source before (some text) where
  fitsOrBlank := ⟨text, rfl, .inr h⟩
  closed _ h' hbracket' := by
    cases h'
    exact absurd hbracket' hbracket

theorem accepts_or_offence_of_isEntry {before : List Line} {text key value : Text}
    (hbracket : text.head? ≠ some '[') (hentry : IsEntry text key value) :
    Accepts source before (some text) ∨ ∃ e, Offence source before (some text) e := by
  by_cases hin : ∃ name since, InSection before name since
  · obtain ⟨name, since, hin⟩ := hin
    by_cases hmem : some variablesLine ∈ since
    · exact .inl ((Fits.ofVariable hin hmem hentry).accepts hbracket)
    by_cases hkey : key ∈ fieldKeys
    · by_cases hcontent : key = contentKey → ∃ content, source.content value = .ok content
      · exact .inl ((Fits.ofField hin hmem hentry hkey hcontent).accepts hbracket)
      · obtain ⟨rfl, hnone⟩ := Classical.not_imp.mp hcontent
        cases hread : source.content value with
        | error cause => exact .inr ⟨_, .contentNotFound hbracket hentry hin hmem hread⟩
        | ok content => exact absurd ⟨content, hread⟩ hnone
    · exact .inr ⟨_, .unknownField hbracket hentry hin hmem hkey⟩
  · exact .inr ⟨_, .noSection hbracket hentry fun name since h => hin ⟨name, since, h⟩⟩

/-- A line is accepted, or there is a reason to refuse it. -/
theorem accepts_or_offence (source : ContentSource) (before : List Line) (line : Line) :
    Accepts source before line ∨ ∃ e, Offence source before line e := by
  cases line with
  | none => exact .inr ⟨_, .unreadable⟩
  | some text =>
    by_cases hblank : text = []
    · subst hblank
      exact .inl (accepts_blank source before)
    by_cases hheader : ∃ name, text = header name
    · obtain ⟨name, rfl⟩ := hheader
      exact .inl (accepts_header source before name)
    by_cases hbracket : text.head? = some '['
    · exact .inr ⟨_, .notClosed hbracket fun name h => hheader ⟨name, h⟩⟩
    by_cases hvariables : text = variablesLine
    · subst hvariables
      exact .inl (Fits.ofVariables.accepts hbracket)
    by_cases hentry : ∃ key value, IsEntry text key value
    · obtain ⟨key, value, hentry⟩ := hentry
      exact accepts_or_offence_of_isEntry hbracket hentry
    · exact .inr ⟨_, .noEntry hbracket hblank hvariables fun key value h => hentry ⟨key, value, h⟩⟩

theorem FirstOffence.not_accepts (h : FirstOffence source lines e) :
    ¬ Throughout (Accepts source) lines := by
  obtain ⟨before, line, after, hlines, -, hnot, -⟩ := h
  intro hall
  exact hnot (hall before line after hlines)

theorem FirstOffence.concat (h : FirstOffence source lines e) (line : Line) :
    FirstOffence source (lines ++ [line]) e := by
  obtain ⟨before, offending, after, rfl, h⟩ := h
  exact ⟨before, offending, after ++ [line], by simp, h⟩

theorem accepts_or_firstOffence (source : ContentSource) (lines : List Line) :
    Throughout (Accepts source) lines ∨ ∃ e, FirstOffence source lines e := by
  induction lines using List.reverseRecOn with
  | nil => exact .inl (throughout_nil _)
  | append_singleton lines line ih =>
    rcases ih with hall | ⟨e, hfirst⟩
    · by_cases haccepts : Accepts source lines line
      · exact .inl (throughout_concat_iff.mpr ⟨hall, haccepts⟩)
      · rcases accepts_or_offence source lines line with h | ⟨e, hoffence⟩
        · exact absurd h haccepts
        · exact .inr ⟨e, lines, line, [], rfl, hall, haccepts, hoffence⟩
    · exact .inr ⟨e, hfirst.concat line⟩

end Lines

namespace PagesState

/-! ## What the reader knows -/

/-- What is known once some lines are read. -/
structure Reached (source : ContentSource) (lines : List Line) (s : PagesState) : Prop
    extends HoldsAll source lines s.pages where
  /-- The section that is being read is the one that the lines end in. -/
  current_iff : ∀ name, s.current = some name ↔ ∃ since, InSection lines name since
  /-- Entries are for variables if `variables:` stands in it. -/
  inVariables_iff : ∀ name since, InSection lines name since →
    (s.inVariables = true ↔ some variablesLine ∈ since)

section Reached

variable {source : ContentSource} {lines since : List Line} {line : Line} {s t : PagesState}
  {name text key value : Text} {e : BuildError} {number : Nat}

theorem Reached.of_new : Reached source [] {} where
  contains_iff name := by
    refine iff_of_false ?_ List.not_mem_nil
    intro h
    cases h
  describes name since h := absurd h.mem List.not_mem_nil
  current_iff name := by simp [not_inSection_nil]
  inVariables_iff name since h := absurd h not_inSection_nil

theorem Reached.beginSection (h : Reached source lines s) (name : Text) :
    Reached source (lines ++ [some (header name)]) ⟨s.pages.insert name {}, some name, false⟩ where
  contains_iff other := by
    rw [Dictionary.contains_insert, Bool.or_eq_true, decide_eq_true_iff, h.contains_iff,
      List.mem_append, List.mem_singleton, Option.some.injEq, header_inj, or_comm, eq_comm]
  describes other since hlast := by
    rw [Dictionary.find?_insert]
    rcases isLastSection_concat_header_iff.mp hlast with ⟨rfl, rfl⟩ | ⟨hne, hlast⟩
    · exact ⟨{}, if_pos rfl, Records.of_new⟩
    · rw [if_neg fun heq => hne heq.symm]
      exact h.describes other since hlast
  current_iff other := by simp [inSection_concat_header_iff, eq_comm]
  inVariables_iff other since hin := by
    obtain ⟨-, rfl⟩ := inSection_concat_header_iff.mp hin
    simp

/-- A line that is no header changes the page of the section that is being read, if any. -/
theorem Reached.concat (h : Reached source lines s) (hline : ∀ other, line ≠ some (header other))
    (hcurrent : t.current = s.current)
    (hvariables : t.inVariables = (s.inVariables || decide (line = some variablesLine)))
    (hsame : ∀ name, s.current ≠ some name → t.pages.find? name = s.pages.find? name)
    (hdescribes : ∀ name since, InSection lines name since →
      ∃ page, t.pages.find? name = some page ∧ Describes source (since ++ [line]) page) :
    Reached source (lines ++ [line]) t where
  contains_iff name := by
    have hmem : some (header name) ∈ lines ++ [line] ↔ some (header name) ∈ lines := by
      rw [List.mem_append, List.mem_singleton]
      exact or_iff_left fun heq => hline name heq.symm
    rw [hmem, ← h.contains_iff]
    by_cases hin : ∃ since, InSection lines name since
    · -- the page of the section that is being read is there before and after
      obtain ⟨since, hin⟩ := hin
      obtain ⟨page, hpage, -⟩ := hdescribes name since hin
      obtain ⟨page', hpage', -⟩ := h.describes name since hin.isLastSection
      unfold Dictionary.contains
      rw [hpage, hpage']
      rfl
    · unfold Dictionary.contains
      rw [hsame name fun hname => hin ((h.current_iff name).mp hname)]
  describes name since hlast := by
    rcases (isLastSection_concat_iff hline).mp hlast with ⟨before, rfl, hin⟩ | ⟨hlast, hnot⟩
    · exact hdescribes name before hin
    · rw [hsame name fun hname => ?_]
      · exact h.describes name since hlast
      · obtain ⟨before, hin⟩ := (h.current_iff name).mp hname
        exact hnot before hin
  current_iff name := by
    rw [hcurrent, h.current_iff]
    constructor
    · rintro ⟨since, hin⟩
      exact ⟨since ++ [line], (inSection_concat_iff hline).mpr ⟨since, rfl, hin⟩⟩
    · rintro ⟨since, hin⟩
      obtain ⟨before, -, hin⟩ := (inSection_concat_iff hline).mp hin
      exact ⟨before, hin⟩
  inVariables_iff name since hin := by
    obtain ⟨before, rfl, hbefore⟩ := (inSection_concat_iff hline).mp hin
    rw [hvariables, Bool.or_eq_true, decide_eq_true_iff, h.inVariables_iff name before hbefore,
      List.mem_append, List.mem_singleton, eq_comm (a := line)]

theorem Reached.describes_skip (h : Reached source lines s) (hline : line.keyValue? = none)
    (name : Text) (since : List Line) (hin : InSection lines name since) :
    ∃ page, s.pages.find? name = some page ∧ Describes source (since ++ [line]) page := by
  obtain ⟨page, hpage, hdescribes⟩ := h.describes name since hin.isLastSection
  exact ⟨page, hpage, hdescribes.skip hline⟩

theorem Reached.blank (h : Reached source lines s) : Reached source (lines ++ [some []]) s := by
  refine h.concat (fun other heq => ?_) rfl ?_ (fun _ _ => rfl) (h.describes_skip rfl)
  · cases heq
  · have hne : ¬ some ([] : Text) = some variablesLine := by decide
    simp [hne]

theorem Reached.variables (h : Reached source lines s) :
    Reached source (lines ++ [some variablesLine]) { s with inVariables := true } := by
  refine h.concat (fun other heq => ?_) rfl ?_ (fun _ _ => rfl) (h.describes_skip rfl)
  · have hfirst : some 'v' = some '[' := congrArg List.head? (Option.some.inj heq)
    exact absurd hfirst (by decide)
  · simp

/-- An entry that changes the page of its section. -/
theorem Reached.entry (h : Reached source lines s) (hin : InSection lines name since)
    (hbracket : text.head? ≠ some '[') (hentry : IsEntry text key value) {page : Page}
    (hdescribes : Describes source (since ++ [some text]) page) :
    Reached source (lines ++ [some text]) { s with pages := s.pages.insert name page } := by
  have hcurrent : s.current = some name := (h.current_iff name).mpr ⟨since, hin⟩
  refine h.concat (fun other heq => ?_) rfl ?_ (fun other hne => ?_) (fun other since' hin' => ?_)
  · rw [Option.some.inj heq] at hbracket
    exact hbracket rfl
  · simp [hentry.ne_variablesLine]
  · have hother : ¬ name = other := fun heq => hne (heq ▸ hcurrent)
    rw [Dictionary.find?_insert, if_neg hother]
  · obtain ⟨rfl, rfl⟩ := hin.unique hin'
    exact ⟨page, by rw [Dictionary.find?_insert, if_pos rfl], hdescribes⟩

/-! ## One line -/

theorem readLine_header (number : Nat) (name : Text) (s : PagesState) :
    readLine source number (some (header name)) s = beginSection name s := by
  have hheader : header? (header name) = some (some name) := header?_eq_some_iff.mpr rfl
  unfold readLine
  simp only [hheader]
  rfl

/-- Lines that are not blank and no headers are entries, `variables:` apart. -/
theorem readLine_of_no_header (hblank : text ≠ []) (hbracket : text.head? ≠ some '[')
    (hvariables : text ≠ variablesLine) :
    readLine source number (some text) s = readEntry source number text s := by
  have hempty : ¬ text.isEmpty = true := by simpa using hblank
  have hheader : header? text = none := header?_eq_none_iff.mpr hbracket
  unfold readLine
  simp only [if_neg hempty, hheader, if_neg hvariables]

theorem readLine_of_isEntry (hbracket : text.head? ≠ some '[') (hentry : IsEntry text key value) :
    readLine source number (some text) s = readEntry source number text s :=
  readLine_of_no_header hentry.ne_nil hbracket hentry.ne_variablesLine

theorem Reached.not_inVariables (h : Reached source lines s) (hin : InSection lines name since)
    (hfields : some variablesLine ∉ since) : ¬ s.inVariables = true :=
  fun hvariables => hfields ((h.inVariables_iff name since hin).mp hvariables)

/-- There is a page for the section that an entry stands in. -/
theorem Reached.exists_readLine (h : Reached source lines s) (hin : InSection lines name since)
    (hbracket : text.head? ≠ some '[') (hentry : IsEntry text key value) (number : Nat) :
    ∃ page, Describes source since page ∧ readLine source number (some text) s =
      if s.inVariables then
        .ok { s with pages :=
          s.pages.insert name { page with bindings := page.bindings.insert key value } }
      else (readField source name page key value).andThen fun page =>
        .ok { s with pages := s.pages.insert name page } := by
  obtain ⟨page, hpage, hdescribes⟩ := h.describes name since hin.isLastSection
  have hcurrent : s.current = some name := (h.current_iff name).mpr ⟨since, hin⟩
  refine ⟨page, hdescribes, ?_⟩
  rw [readLine_of_isEntry hbracket hentry]
  unfold readEntry
  rw [entry_eq_ok_iff.mpr hentry]
  simp only [hcurrent, hpage]

theorem Reached.readLine_variable (h : Reached source lines s) (number : Nat)
    (hin : InSection lines name since) (hmem : some variablesLine ∈ since)
    (hbracket : text.head? ≠ some '[') (hentry : IsEntry text key value) :
    ∃ t, (readLine source number (some text) s).result = .ok t ∧
      Reached source (lines ++ [some text]) t := by
  obtain ⟨page, hdescribes, hread⟩ := h.exists_readLine hin hbracket hentry number
  refine ⟨_, ?_, h.entry hin hbracket hentry (hdescribes.variable hmem hentry)⟩
  rw [hread, if_pos ((h.inVariables_iff name since hin).mpr hmem)]
  rfl

theorem Reached.readLine_field (h : Reached source lines s) (number : Nat)
    (hin : InSection lines name since) (hfields : some variablesLine ∉ since)
    (hbracket : text.head? ≠ some '[') (hentry : IsEntry text key value) (hkey : key ∈ fieldKeys)
    (hcontent : key = contentKey → ∃ content, source.content value = .ok content) :
    ∃ t, (readLine source number (some text) s).result = .ok t ∧
      Reached source (lines ++ [some text]) t := by
  obtain ⟨page, hdescribes, hread⟩ := h.exists_readLine hin hbracket hentry number
  obtain ⟨next, hnext, htakes⟩ := result_readField name page hkey hcontent
  refine ⟨_, ?_, h.entry hin hbracket hentry (hdescribes.field hfields hentry htakes)⟩
  rw [hread, if_neg (h.not_inVariables hin hfields), Outcome.result_andThen, hnext]
  rfl

/-- The step lemma for lines that are accepted. -/
theorem Reached.readLine_of_accepts (h : Reached source lines s) (number : Nat)
    (haccepts : Accepts source lines line) :
    ∃ t, (readLine source number line s).result = .ok t ∧ Reached source (lines ++ [line]) t := by
  obtain ⟨⟨text, rfl, rfl | hfits⟩, hclosed⟩ := haccepts
  · exact ⟨s, rfl, h.blank⟩
  by_cases hbracket : text.head? = some '['
  · -- the grammar may let it stand as an entry, too, but then it is read as a header
    obtain ⟨name, rfl⟩ := hclosed text rfl hbracket
    refine ⟨_, ?_, h.beginSection name⟩
    rw [readLine_header]
    rfl
  cases hfits with
  | ofHeader name => exact absurd rfl hbracket
  | ofVariables => exact ⟨_, rfl, h.variables⟩
  | ofVariable hin hmem hentry => exact h.readLine_variable number hin hmem hbracket hentry
  | ofField hin hfields hentry hkey hcontent =>
    exact h.readLine_field number hin hfields hbracket hentry hkey hcontent

/-- The step lemma for the other lines. -/
theorem Reached.readLine_of_offence (h : Reached source lines s)
    (hoffence : Offence source lines line e) :
    (readLine source (lines.length + 1) line s).result = .error e := by
  cases hoffence with
  | unreadable => rfl
  | @notClosed text hbracket hopen =>
    have hempty : ¬ text.isEmpty = true := by
      intro hempty
      rw [List.isEmpty_iff.mp hempty] at hbracket
      cases hbracket
    unfold readLine
    simp only [if_neg hempty, header?_eq_some_none hbracket hopen]
    rfl
  | noEntry hbracket hblank hvariables hentry =>
    rw [readLine_of_no_header hblank hbracket hvariables]
    unfold readEntry
    rw [entry_eq_error hentry]
    rfl
  | noSection hbracket hentry hnone =>
    have hcurrent : s.current = none := by
      refine Option.eq_none_iff_forall_ne_some.mpr fun name hname => ?_
      obtain ⟨since, hin⟩ := (h.current_iff name).mp hname
      exact hnone name since hin
    rw [readLine_of_isEntry hbracket hentry]
    unfold readEntry
    rw [entry_eq_ok_iff.mpr hentry]
    simp only [hcurrent]
    rfl
  | unknownField hbracket hentry hin hfields hkey =>
    obtain ⟨page, -, hread⟩ := h.exists_readLine hin hbracket hentry (lines.length + 1)
    rw [hread, if_neg (h.not_inVariables hin hfields), Outcome.result_andThen,
      result_readField_unknown hkey]
    rfl
  | contentNotFound hbracket hentry hin hfields hcontent =>
    obtain ⟨page, -, hread⟩ := h.exists_readLine hin hbracket hentry (lines.length + 1)
    rw [hread, if_neg (h.not_inVariables hin hfields), Outcome.result_andThen,
      result_readField_contentNotFound hcontent]
    rfl

/-! ## All lines -/

/-- The run lemma. Acceptance looks back at the lines before, so lines are added at the end. -/
theorem exists_reached (hall : Throughout (Accepts source) lines) :
    ∃ s, (readLines source 1 lines {}).result = .ok s ∧ Reached source lines s := by
  induction lines using List.reverseRecOn with
  | nil => exact ⟨{}, rfl, .of_new⟩
  | append_singleton lines line ih =>
    obtain ⟨hlines, hline⟩ := throughout_concat_iff.mp hall
    obtain ⟨s, hs, hreached⟩ := ih hlines
    obtain ⟨t, ht, hnext⟩ := hreached.readLine_of_accepts (1 + lines.length) hline
    refine ⟨t, ?_, hnext⟩
    rw [result_readLines_append, hs]
    show (readLines source (1 + lines.length) [line] s).result = .ok t
    rw [readLines, Outcome.result_andThen, ht]
    rfl

theorem result_readLines_of_firstOffence (h : FirstOffence source lines e) :
    (readLines source 1 lines {}).result = .error e := by
  obtain ⟨before, line, after, rfl, hbefore, -, hoffence⟩ := h
  obtain ⟨s, hs, hreached⟩ := exists_reached hbefore
  have hline := hreached.readLine_of_offence hoffence
  rw [result_readLines_append, hs, Nat.add_comm 1 before.length]
  show (readLines source (before.length + 1) (line :: after) s).result = .error e
  rw [readLines, Outcome.result_andThen, hline]
  rfl

end Reached

end PagesState

theorem exists_holdsAll {source : ContentSource} {lines : List Line}
    (hall : Throughout (Accepts source) lines) :
    ∃ pages, (parsePages source lines).result = .ok pages ∧ HoldsAll source lines pages := by
  obtain ⟨s, hs, hreached⟩ := PagesState.exists_reached hall
  refine ⟨s.pages, ?_, hreached.toHoldsAll⟩
  rw [PagesState.result_parsePages]
  unfold PagesState.pagesOf
  rw [hs]
  rfl

theorem result_parsePages_of_firstOffence {source : ContentSource} {lines : List Line}
    {e : BuildError} (h : FirstOffence source lines e) :
    (parsePages source lines).result = .error e := by
  rw [PagesState.result_parsePages]
  unfold PagesState.pagesOf
  rw [PagesState.result_readLines_of_firstOffence h]
  rfl

theorem holdsAll_of_parsePages {source : ContentSource} {lines : List Line} {pages : PageSet}
    (hpages : (parsePages source lines).result = .ok pages) :
    Throughout (Accepts source) lines ∧ HoldsAll source lines pages := by
  rcases accepts_or_firstOffence source lines with hall | ⟨e, hfirst⟩
  · obtain ⟨pages', hpages', hholds⟩ := exists_holdsAll hall
    rw [hpages] at hpages'
    cases hpages'
    exact ⟨hall, hholds⟩
  · rw [result_parsePages_of_firstOffence hfirst] at hpages
    cases hpages

/-- A page file is read if all of its lines are accepted, and otherwise refused for the first line
that is not. However far it is read, the pages are those that have a header up to there, and each
one is what its last section says up to there. A line that is no text has a text of its own in the
message. -/
theorem parsePages_acceptance (source : ContentSource) (content : ByteArray) :
    let lines := linesOfBytes content
    ((∃ pages, (parsePages source lines).result = .ok pages) ↔ Throughout (Accepts source) lines) ∧
      (∀ e, (parsePages source lines).result = .error e ↔ FirstOffence source lines e) ∧
      (∀ before after, lines = before ++ after → Throughout (Accepts source) before →
        ∃ pages, (parsePages source before).result = .ok pages ∧ HoldsAll source before pages) ∧
      ∀ number, (BuildError.malformedLine number none).message =
        (BuildError.malformedLine number (some "<unreadable>".toList)).message := by
  intro lines
  refine ⟨⟨?_, ?_⟩, fun e => ⟨?_, result_parsePages_of_firstOffence⟩,
    fun before after _ => exists_holdsAll, fun number => rfl⟩
  · rintro ⟨pages, hpages⟩
    exact (holdsAll_of_parsePages hpages).1
  · intro hall
    obtain ⟨pages, hpages, -⟩ := exists_holdsAll hall
    exact ⟨pages, hpages⟩
  · intro herror
    rcases accepts_or_firstOffence source lines with hall | ⟨e', hfirst⟩
    · obtain ⟨pages, hpages, -⟩ := exists_holdsAll hall
      rw [hpages] at herror
      cases herror
    · rw [result_parsePages_of_firstOffence hfirst] at herror
      cases herror
      exact hfirst

/-- A source whose folders are empty. -/
def ContentSource.noFiles : ContentSource where
  contentPath stem := stem
  content _ := .error .notFound
  preview _ := .error .notFound
  line _ := .error .notFound

/-- The second offence of the file is not reported. -/
theorem parsePages_acceptance_unknown_field :
    let lines := linesOfBytes (Text.encode "[a]\n\ncolour: red\nbroken\n".toList)
    FirstOffence .noFiles lines (.unknownField "a".toList "colour".toList) ∧
      ¬ Throughout (Accepts .noFiles) lines := by
  intro lines
  obtain ⟨-, herror, -⟩ :=
    parsePages_acceptance .noFiles (Text.encode "[a]\n\ncolour: red\nbroken\n".toList)
  have hfirst := (herror (.unknownField "a".toList "colour".toList)).mp rfl
  exact ⟨hfirst, hfirst.not_accepts⟩

/-- The grammar alone says which page files are read. -/
def GrammarDecides (source : ContentSource) (lines : List Line) : Prop :=
  (∃ pages, (parsePages source lines).result = .ok pages) ↔ Throughout (FitsOrBlank source) lines

/-- It does not: a line that defines a variable may not begin with a square bracket. -/
theorem not_grammarDecides_bracket :
    ¬ GrammarDecides .noFiles (linesOfBytes (Text.encode "[a]\nvariables:\n[x: y\n".toList)) := by
  intro hdecides
  have hlines : linesOfBytes (Text.encode "[a]\nvariables:\n[x: y\n".toList) =
      [] ++ [some (header ['a'])] ++ [some variablesLine] ++ [some "[x: y".toList] := rfl
  have hentry : IsEntry "[x: y".toList "[x".toList "y".toList := by
    have hread : entry 0 "[x: y".toList = .ok ("[x".toList, "y".toList) := rfl
    exact entry_eq_ok_iff.mp hread
  have hin : InSection ([] ++ [some (header ['a'])] ++ [some variablesLine]) ['a']
      [some variablesLine] := by
    refine ⟨⟨[], rfl⟩, fun other hmem => ?_⟩
    have hline : header other = variablesLine := Option.some.inj (List.mem_singleton.mp hmem)
    cases PagesState.header?_eq_some_iff.mpr hline.symm
  have hfits : Throughout (FitsOrBlank .noFiles)
      ([] ++ [some (header ['a'])] ++ [some variablesLine] ++ [some "[x: y".toList]) := by
    refine throughout_concat_iff.mpr ⟨throughout_concat_iff.mpr ⟨throughout_concat_iff.mpr
      ⟨throughout_nil _, ?_⟩, ?_⟩, ?_⟩
    · exact ⟨_, rfl, .inr (.ofHeader ['a'])⟩
    · exact ⟨_, rfl, .inr .ofVariables⟩
    · exact ⟨_, rfl, .inr (.ofVariable hin List.mem_cons_self hentry)⟩
  rw [← hlines] at hfits
  obtain ⟨pages, hpages⟩ := hdecides.mpr hfits
  cases hpages

end StaticSite.Spec
