import Mathlib.Data.List.TakeWhile
import StaticSite.Proofs.Spec.Header

/-!
# What a section says of its page

Up to a line `variables:` the entries of a section are for fields of the page, behind it they define
variables (`fieldEntries`, `variableEntries`). `Records` says what the page is then: a field is what
its last entry says, and so is a variable; of the files that content entries name, the last one that
can be read counts, for contents, previews and lines each on their own. So it is known line by line
what the page of a section is (`Describes`).
-/

namespace StaticSite

/-- The fields of a page that are taken as they are written, with the keys of their entries. -/
def Page.written (page : Page) : List (Text × Text) :=
  [("template".toList, page.template), ("url".toList, page.url), ("title".toList, page.title),
    ("date".toList, page.date), ("author".toList, page.author), ("group".toList, page.group)]

namespace Spec

def unlistedKey : Text :=
  "unlisted".toList

def contentKey : Text :=
  "content".toList

/-- The keys of entries for fields. -/
def fieldKeys : List Text :=
  ["template".toList, "url".toList, "title".toList, "date".toList, "author".toList, "group".toList,
    unlistedKey, contentKey]

/-- The texts of a page that are read from files, with where they are read. -/
def ContentSource.readings (source : ContentSource) (page : Page) :
    List ((Text → Except FileError Text) × Text) :=
  [(source.content, page.content), (source.preview, page.preview), (source.line, page.line)]

/-- The entries for fields among the lines of a section. -/
def fieldEntries (since : List Line) : List (Text × Text) :=
  (since.takeWhile fun line => line ≠ some variablesLine).filterMap Line.keyValue?

/-- The entries for variables among the lines of a section. -/
def variableEntries (since : List Line) : List (Text × Text) :=
  (since.dropWhile fun line => line ≠ some variablesLine).filterMap Line.keyValue?

/-- The files that entries name for the content. -/
def stems (entries : List (Text × Text)) : List Text :=
  (entries.filter fun e => e.1 = contentKey).map Prod.snd

/-- The text of the last file that can be read, or nothing if there is none. -/
def lastRead (read : Text → Except FileError Text) (stems : List Text) : Text :=
  (stems.filterMap fun stem => (read stem).toOption).getLast?.getD []

/-- A page is what entries for its fields and its variables say. -/
structure Records (source : ContentSource) (fields defined : List (Text × Text)) (page : Page) :
    Prop where
  /-- A field that is written has the value of its last entry. -/
  written_eq : ∀ key value, (key, value) ∈ page.written →
    value = (lastValue? key fields).getD []
  /-- The page is unlisted if there is an entry for it, whatever its value. -/
  unlisted_iff : page.unlisted = true ↔ ∃ value, (unlistedKey, value) ∈ fields
  /-- A text that is read is that of the last file that can be read. -/
  read_eq : ∀ read text, (read, text) ∈ source.readings page → text = lastRead read (stems fields)
  exists_content : ∀ stem ∈ stems fields, ∃ content, source.content stem = .ok content
  /-- A variable has the value of its last entry. -/
  variable_eq : ∀ v, page.bindings.find? v = lastValue? v defined

/-- What the lines of a section say of its page. -/
def Describes (source : ContentSource) (since : List Line) (page : Page) : Prop :=
  Records source (fieldEntries since) (variableEntries since) page

/-! ## One more line of a section -/

section Entries

variable {since before after : List Line} {line : Line}

theorem keyValue?_variablesLine : Line.keyValue? (some variablesLine) = none := rfl

theorem IsEntry.ne_variablesLine {text key value : Text} (h : IsEntry text key value) :
    text ≠ variablesLine := by
  intro htext
  have hsome := Line.keyValue?_of_isEntry h
  rw [htext, keyValue?_variablesLine] at hsome
  cases hsome

theorem filterMap_keyValue?_concat (lines : List Line) (line : Line) :
    (lines ++ [line]).filterMap Line.keyValue? =
      lines.filterMap Line.keyValue? ++ line.keyValue?.toList := by
  rw [List.filterMap_append]
  cases h : line.keyValue? with
  | none => simp [h]
  | some e => simp [h]

theorem forall_ne_variablesLine (h : some variablesLine ∉ since) :
    ∀ line ∈ since, decide (line ≠ some variablesLine) = true := by
  intro line hmem
  exact decide_eq_true fun hline => h (hline ▸ hmem)

theorem fieldEntries_of_not_mem (h : some variablesLine ∉ since) :
    fieldEntries since = since.filterMap Line.keyValue? := by
  unfold fieldEntries
  rw [List.takeWhile_eq_self_iff.mpr (forall_ne_variablesLine h)]

theorem variableEntries_of_not_mem (h : some variablesLine ∉ since) :
    variableEntries since = [] := by
  unfold variableEntries
  rw [List.dropWhile_eq_nil_iff.mpr (forall_ne_variablesLine h)]
  rfl

theorem fieldEntries_append (h : some variablesLine ∉ before) (after : List Line) :
    fieldEntries (before ++ some variablesLine :: after) = before.filterMap Line.keyValue? := by
  unfold fieldEntries
  rw [List.takeWhile_append_of_pos (forall_ne_variablesLine h)]
  simp

theorem variableEntries_append (h : some variablesLine ∉ before) (after : List Line) :
    variableEntries (before ++ some variablesLine :: after) = after.filterMap Line.keyValue? := by
  unfold variableEntries
  rw [List.dropWhile_append_of_pos (forall_ne_variablesLine h),
    List.dropWhile_cons_of_neg (by simp), List.filterMap_cons, keyValue?_variablesLine]

/-- Before the line `variables:`, an entry is for a field. -/
theorem entries_concat_of_not_mem (h : some variablesLine ∉ since) (line : Line) :
    fieldEntries (since ++ [line]) = fieldEntries since ++ line.keyValue?.toList ∧
      variableEntries (since ++ [line]) = variableEntries since := by
  rw [fieldEntries_of_not_mem h, variableEntries_of_not_mem h]
  by_cases hline : line = some variablesLine
  · -- the line `variables:` itself is not an entry
    subst hline
    rw [fieldEntries_append h, variableEntries_append h, keyValue?_variablesLine]
    exact ⟨(List.append_nil _).symm, rfl⟩
  · have hsince : some variablesLine ∉ since ++ [line] := by
      intro hmem
      rcases List.mem_append.mp hmem with hmem | hmem
      · exact h hmem
      · exact hline (List.mem_singleton.mp hmem).symm
    rw [fieldEntries_of_not_mem hsince, variableEntries_of_not_mem hsince]
    exact ⟨filterMap_keyValue?_concat since line, rfl⟩

/-- Behind it, an entry is for a variable. -/
theorem entries_concat_of_mem (h : some variablesLine ∈ since) (line : Line) :
    fieldEntries (since ++ [line]) = fieldEntries since ∧
      variableEntries (since ++ [line]) = variableEntries since ++ line.keyValue?.toList := by
  obtain ⟨before, after, rfl, hbefore⟩ := List.eq_append_cons_of_mem h
  rw [List.append_assoc, List.cons_append, fieldEntries_append hbefore, fieldEntries_append hbefore,
    variableEntries_append hbefore, variableEntries_append hbefore]
  exact ⟨rfl, filterMap_keyValue?_concat after line⟩

/-- A line that is no entry says nothing. -/
theorem entries_concat_of_no_entry (since : List Line) (h : line.keyValue? = none) :
    fieldEntries (since ++ [line]) = fieldEntries since ∧
      variableEntries (since ++ [line]) = variableEntries since := by
  by_cases hmem : some variablesLine ∈ since
  · have hentries := entries_concat_of_mem hmem line
    rwa [h, Option.toList_none, List.append_nil] at hentries
  · have hentries := entries_concat_of_not_mem hmem line
    rwa [h, Option.toList_none, List.append_nil] at hentries

end Entries

theorem stems_concat (entries : List (Text × Text)) (key value : Text) :
    stems (entries ++ [(key, value)]) =
      if key = contentKey then stems entries ++ [value] else stems entries := by
  unfold stems
  rw [List.filter_append, List.map_append]
  by_cases h : key = contentKey
  · simp [h]
  · simp [h]

theorem lastRead_concat (read : Text → Except FileError Text) (stems : List Text) (stem : Text) :
    lastRead read (stems ++ [stem]) = (read stem).toOption.getD (lastRead read stems) := by
  unfold lastRead
  rw [List.filterMap_append]
  cases h : read stem with
  | error e => simp [h, Except.toOption]
  | ok text => simp [h, Except.toOption]

/-! ## One more entry -/

/-- What an entry for a field does to a page: only what the key is for changes. -/
structure TakesIn (source : ContentSource) (key value : Text) (page next : Page) : Prop where
  written_eq : next.written = page.written.map fun e => if key = e.1 then (e.1, value) else e
  unlisted_eq : next.unlisted = (decide (key = unlistedKey) || page.unlisted)
  /-- A content entry fills in the texts of the files that can be read. -/
  readings_eq : source.readings next = (source.readings page).map fun r =>
    if key = contentKey then (r.1, (r.1 value).toOption.getD r.2) else r
  exists_content : key = contentKey → ∃ content, source.content value = .ok content
  bindings_eq : next.bindings = page.bindings

section Page

variable {source : ContentSource} {fields defined : List (Text × Text)} {page next : Page}
  {name text key value content : Text} {since : List Line} {line : Line}

theorem Records.of_new : Records source [] [] {} where
  written_eq key value h := by
    have hempty : ∀ e ∈ ({} : Page).written, e.2 = [] := by decide
    rw [lastValue?_nil]
    exact hempty (key, value) h
  unlisted_iff := by simp
  read_eq read text h := by
    have hempty : ∀ r ∈ source.readings {}, r.2 = [] := by simp [ContentSource.readings]
    exact hempty (read, text) h
  exists_content stem h := absurd h List.not_mem_nil
  variable_eq v := rfl

theorem Records.variable (h : Records source fields defined page) (key value : Text) :
    Records source fields (defined ++ [(key, value)])
      { page with bindings := page.bindings.insert key value } where
  written_eq := h.written_eq
  unlisted_iff := h.unlisted_iff
  read_eq := h.read_eq
  exists_content := h.exists_content
  variable_eq v := by
    rw [Dictionary.find?_insert, lastValue?_concat, h.variable_eq]

theorem Records.field (h : Records source fields defined page)
    (htakes : TakesIn source key value page next) :
    Records source (fields ++ [(key, value)]) defined next where
  written_eq k x hmem := by
    rw [htakes.written_eq] at hmem
    obtain ⟨⟨k', x'⟩, hold, heq⟩ := List.mem_map.mp hmem
    have hx' := h.written_eq k' x' hold
    rw [lastValue?_concat]
    by_cases hkey : key = k'
    · rw [if_pos hkey] at heq
      cases heq
      rw [if_pos hkey]
      rfl
    · rw [if_neg hkey] at heq
      cases heq
      rw [if_neg hkey]
      exact hx'
  unlisted_iff := by
    rw [htakes.unlisted_eq, Bool.or_eq_true, h.unlisted_iff, decide_eq_true_iff]
    constructor
    · rintro (rfl | ⟨x, hx⟩)
      · exact ⟨value, by simp⟩
      · exact ⟨x, List.mem_append_left _ hx⟩
    · rintro ⟨x, hx⟩
      rcases List.mem_append.mp hx with hx | hx
      · exact .inr ⟨x, hx⟩
      · have hkey := List.mem_singleton.mp hx
        cases hkey
        exact .inl rfl
  read_eq read text hmem := by
    rw [htakes.readings_eq] at hmem
    obtain ⟨⟨read', text'⟩, hold, heq⟩ := List.mem_map.mp hmem
    have htext' := h.read_eq read' text' hold
    rw [stems_concat]
    by_cases hkey : key = contentKey
    · rw [if_pos hkey] at heq
      cases heq
      rw [if_pos hkey, lastRead_concat, ← htext']
    · rw [if_neg hkey] at heq
      cases heq
      rw [if_neg hkey]
      exact htext'
  exists_content stem hmem := by
    rw [stems_concat] at hmem
    by_cases hkey : key = contentKey
    · rw [if_pos hkey, List.mem_append, List.mem_singleton] at hmem
      rcases hmem with hmem | rfl
      · exact h.exists_content stem hmem
      · exact htakes.exists_content hkey
    · rw [if_neg hkey] at hmem
      exact h.exists_content stem hmem
  variable_eq v := by
    rw [htakes.bindings_eq]
    exact h.variable_eq v

/-! ## One more line -/

theorem Describes.skip (h : Describes source since page) (hline : line.keyValue? = none) :
    Describes source (since ++ [line]) page := by
  obtain ⟨hfields, hdefined⟩ := entries_concat_of_no_entry since hline
  unfold Describes
  rw [hfields, hdefined]
  exact h

theorem Describes.variable (h : Describes source since page) (hmem : some variablesLine ∈ since)
    (hentry : IsEntry text key value) :
    Describes source (since ++ [some text])
      { page with bindings := page.bindings.insert key value } := by
  obtain ⟨hfields, hdefined⟩ := entries_concat_of_mem hmem (some text)
  unfold Describes
  rw [hfields, hdefined, Line.keyValue?_of_isEntry hentry]
  exact Records.variable h key value

theorem Describes.field (h : Describes source since page) (hnot : some variablesLine ∉ since)
    (hentry : IsEntry text key value) (htakes : TakesIn source key value page next) :
    Describes source (since ++ [some text]) next := by
  obtain ⟨hfields, hdefined⟩ := entries_concat_of_not_mem hnot (some text)
  unfold Describes
  rw [hfields, hdefined, Line.keyValue?_of_isEntry hentry]
  exact Records.field h htakes

/-! ## Reading an entry for a field -/

theorem result_readContent (h : source.content value = .ok content) :
    ∃ next, (PagesState.readContent source name page value).result = .ok next ∧
      TakesIn source contentKey value page next := by
  unfold PagesState.readContent
  rw [h]
  cases hpreview : source.preview value <;> cases hline : source.line value
  all_goals
    refine ⟨_, rfl, rfl, rfl, ?_, fun _ => ⟨content, h⟩, rfl⟩
    simp [ContentSource.readings, h, hpreview, hline, Except.toOption]

/-- An entry with one of the keys is taken in, if the content that it may name can be read. -/
theorem result_readField (name : Text) (page : Page) (hkey : key ∈ fieldKeys)
    (hcontent : key = contentKey → ∃ content, source.content value = .ok content) :
    ∃ next, (PagesState.readField source name page key value).result = .ok next ∧
      TakesIn source key value page next := by
  unfold fieldKeys at hkey
  simp only [List.mem_cons, List.not_mem_nil, or_false] at hkey
  rcases hkey with rfl | rfl | rfl | rfl | rfl | rfl | rfl | rfl
  -- all but the content are taken as they are written
  iterate 7 exact ⟨_, rfl, rfl, rfl, rfl, hcontent, rfl⟩
  obtain ⟨content, h⟩ := hcontent rfl
  exact result_readContent h

theorem result_readField_unknown (hkey : key ∉ fieldKeys) :
    (PagesState.readField source name page key value).result = .error (.unknownField name key) := by
  unfold fieldKeys unlistedKey contentKey at hkey
  simp only [List.mem_cons, List.not_mem_nil, or_false, not_or] at hkey
  obtain ⟨htemplate, hurl, htitle, hdate, hauthor, hgroup, hunlisted, hcontent⟩ := hkey
  unfold PagesState.readField
  rw [if_neg htemplate, if_neg hurl, if_neg htitle, if_neg hdate, if_neg hauthor, if_neg hgroup,
    if_neg hunlisted, if_neg hcontent]
  rfl

theorem result_readField_contentNotFound {cause : FileError}
    (h : source.content value = .error cause) :
    (PagesState.readField source name page contentKey value).result =
      .error (.contentNotFound name (source.contentPath value) cause) := by
  show (PagesState.readContent source name page value).result = _
  unfold PagesState.readContent
  rw [h]
  rfl

end Page

end Spec

end StaticSite
