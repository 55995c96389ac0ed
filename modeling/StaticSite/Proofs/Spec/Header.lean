import StaticSite.Proofs.Spec.Entry
import StaticSite.Spec.Pages

/-!
# Headers

A header begins a section of the page file, and the section lasts to the next header. `InSection`
says which section the end of some lines is in, `IsLastSection` which of the sections with one name
comes last. Both are followed line by line from the front: a header begins a section of its own, and
any other line goes to the section that the lines before it end in.
-/

namespace StaticSite.Spec

/-- The line that begins the section of a page. -/
def header (name : Text) : Text :=
  '[' :: (name ++ [']'])

/-- The nearest header before the end of some lines is that of a name, and these lines stand
behind it. -/
def InSection (lines : List Line) (name : Text) (since : List Line) : Prop :=
  (∃ earlier, lines = earlier ++ some (header name) :: since) ∧
    ∀ other, some (header other) ∉ since

/-- The last section of a name has these lines: it lasts to the end, or to another header. -/
def IsLastSection (lines : List Line) (name : Text) (since : List Line) : Prop :=
  ∃ before after, lines = before ++ after ∧ InSection before name since ∧
    some (header name) ∉ after ∧ (after = [] ∨ ∃ other rest, after = some (header other) :: rest)

theorem header_inj {name other : Text} : header name = header other ↔ name = other := by
  unfold header
  rw [List.cons.injEq, List.append_left_inj]
  simp

namespace PagesState

variable {text name : Text}

theorem header?_eq_some_iff : header? text = some (some name) ↔ text = header name := by
  cases text with
  | nil => simp [header?, header]
  | cons c rest =>
    by_cases hc : c = '['
    · subst hc
      simp [header?, header, Text.dropEnd?_eq_some_iff]
    · simp [header?, header, hc]

theorem header?_eq_none_iff : header? text = none ↔ text.head? ≠ some '[' := by
  cases text with
  | nil => simp [header?]
  | cons c rest =>
    by_cases hc : c = '['
    · subst hc
      simp [header?]
    · simp [header?, hc]

theorem header?_eq_some_none (hbracket : text.head? = some '[') (h : ∀ name, text ≠ header name) :
    header? text = some none := by
  cases hheader : header? text with
  | none => exact absurd hbracket (header?_eq_none_iff.mp hheader)
  | some closed =>
    cases closed with
    | none => rfl
    | some name => exact absurd (header?_eq_some_iff.mp hheader) (h name)

end PagesState

/-! ## The section that lines end in -/

section Sections

variable {lines since : List Line} {line : Line} {name other : Text}

theorem not_inSection_nil : ¬ InSection [] name since := by
  rintro ⟨⟨earlier, h⟩, -⟩
  simp at h

theorem InSection.mem (h : InSection lines name since) : some (header name) ∈ lines := by
  obtain ⟨⟨earlier, rfl⟩, -⟩ := h
  simp

theorem inSection_concat_header_iff :
    InSection (lines ++ [some (header other)]) name since ↔ name = other ∧ since = [] := by
  constructor
  · rintro ⟨⟨earlier, hlines⟩, hno⟩
    rcases append_singleton_eq_append_cons hlines with ⟨rfl, -, hname⟩ | ⟨rest, rfl, -⟩
    · exact ⟨(header_inj.mp (Option.some.inj hname)).symm, rfl⟩
    · exact absurd (List.mem_append_right rest List.mem_cons_self) (hno other)
  · rintro ⟨rfl, rfl⟩
    exact ⟨⟨lines, rfl⟩, by simp⟩

/-- A line that is no header goes to the section that the lines before it end in. -/
theorem inSection_concat_iff (hline : ∀ other, line ≠ some (header other)) :
    InSection (lines ++ [line]) name since ↔
      ∃ before, since = before ++ [line] ∧ InSection lines name before := by
  constructor
  · rintro ⟨⟨earlier, hlines⟩, hno⟩
    rcases append_singleton_eq_append_cons hlines with ⟨-, -, hname⟩ | ⟨rest, rfl, rfl⟩
    · exact absurd hname (hline name)
    · exact ⟨rest, rfl, ⟨earlier, rfl⟩, fun other hmem => hno other (List.mem_append_left _ hmem)⟩
  · rintro ⟨before, rfl, ⟨earlier, rfl⟩, hno⟩
    refine ⟨⟨earlier, by simp⟩, fun other hmem => ?_⟩
    rcases List.mem_append.mp hmem with hmem | hmem
    · exact hno other hmem
    · exact hline other (List.mem_singleton.mp hmem).symm

/-- The lines end in one section at most. -/
theorem InSection.unique {name' : Text} {since' : List Line} (h : InSection lines name since)
    (h' : InSection lines name' since') : name' = name ∧ since' = since := by
  induction lines using List.reverseRecOn generalizing since since' with
  | nil => exact absurd h not_inSection_nil
  | append_singleton lines line ih =>
    rcases exists_or_forall_not fun other => line = some (header other) with ⟨other, rfl⟩ | hline
    · obtain ⟨rfl, rfl⟩ := inSection_concat_header_iff.mp h
      exact inSection_concat_header_iff.mp h'
    · obtain ⟨before, rfl, hbefore⟩ := (inSection_concat_iff hline).mp h
      obtain ⟨before', rfl, hbefore'⟩ := (inSection_concat_iff hline).mp h'
      obtain ⟨rfl, rfl⟩ := ih hbefore hbefore'
      exact ⟨rfl, rfl⟩

/-! ## The last section of a name -/

theorem InSection.isLastSection (h : InSection lines name since) :
    IsLastSection lines name since :=
  ⟨lines, [], (List.append_nil lines).symm, h, by simp, .inl rfl⟩

theorem IsLastSection.mem (h : IsLastSection lines name since) : some (header name) ∈ lines := by
  obtain ⟨before, after, rfl, hin, -⟩ := h
  exact List.mem_append_left _ hin.mem

theorem isLastSection_concat_header_iff :
    IsLastSection (lines ++ [some (header other)]) name since ↔
      name = other ∧ since = [] ∨ name ≠ other ∧ IsLastSection lines name since := by
  constructor
  · rintro ⟨before, after, hlines, hin, hno, hafter⟩
    rcases append_singleton_eq_append hlines with ⟨-, rfl⟩ | ⟨rest, rfl, rfl⟩
    · exact .inl (inSection_concat_header_iff.mp hin)
    · refine .inr ⟨fun hname => hno (by simp [hname]), before, rest, rfl, hin, ?_, ?_⟩
      · exact fun hmem => hno (List.mem_append_left _ hmem)
      · cases rest with
        | nil => exact .inl rfl
        | cons first rest =>
          rcases hafter with hnil | ⟨other', rest', hfirst⟩
          · cases hnil
          · obtain ⟨rfl, -⟩ := List.cons.inj hfirst
            exact .inr ⟨other', rest, rfl⟩
  · rintro (⟨rfl, rfl⟩ | ⟨hne, before, after, rfl, hin, hno, hafter⟩)
    · exact (inSection_concat_header_iff.mpr ⟨rfl, rfl⟩).isLastSection
    · refine ⟨before, after ++ [some (header other)], by simp, hin, ?_, .inr ?_⟩
      · intro hmem
        rcases List.mem_append.mp hmem with hmem | hmem
        · exact hno hmem
        · have hname : header name = header other := by simpa using hmem
          exact hne (header_inj.mp hname)
      · rcases hafter with rfl | ⟨other', rest, rfl⟩
        · exact ⟨other, [], rfl⟩
        · exact ⟨other', rest ++ [some (header other)], rfl⟩

/-- Behind the last section of a name and another header, the lines are in another section. -/
theorem not_inSection_append_header {before after since' : List Line}
    (hno : some (header name) ∉ some (header other) :: after) :
    ¬ InSection (before ++ some (header other) :: after) name since' := by
  rintro ⟨⟨earlier, h⟩, hnone⟩
  -- the header of the name stands behind the other one, or before it
  rcases List.append_eq_append_iff.mp h with ⟨between, -, hafter⟩ | ⟨between, -, hsince⟩
  · rw [hafter] at hno
    simp at hno
  · cases between with
    | nil =>
      rw [List.nil_append] at hsince
      rw [← hsince] at hno
      simp at hno
    | cons first between =>
      rw [(List.cons.inj hsince).2] at hnone
      exact hnone other (by simp)

/-- A line that is no header goes to one section, and leaves the last sections of the other names
as they are. -/
theorem isLastSection_concat_iff (hline : ∀ other, line ≠ some (header other)) :
    IsLastSection (lines ++ [line]) name since ↔
      (∃ before, since = before ++ [line] ∧ InSection lines name before) ∨
        IsLastSection lines name since ∧ ∀ before, ¬ InSection lines name before := by
  rw [← inSection_concat_iff hline]
  constructor
  · rintro ⟨before, after, hlines, hin, hno, hafter⟩
    rcases append_singleton_eq_append hlines with ⟨-, rfl⟩ | ⟨rest, rfl, rfl⟩
    · exact .inl hin
    · rcases hafter with hnil | ⟨other, later, hlater⟩
      · simp at hnil
      · cases rest with
        | nil => exact absurd (List.cons.inj hlater).1 (hline other)
        | cons first rest =>
          obtain ⟨rfl, -⟩ := List.cons.inj hlater
          have hno' : some (header name) ∉ some (header other) :: rest :=
            fun hmem => hno (List.mem_append_left _ hmem)
          refine .inr ⟨⟨before, _, rfl, hin, hno', .inr ⟨other, rest, rfl⟩⟩, fun since' => ?_⟩
          exact not_inSection_append_header hno'
  · rintro (hin | ⟨⟨before, after, rfl, hin, hno, hafter⟩, hother⟩)
    · exact hin.isLastSection
    · rcases hafter with rfl | ⟨other, rest, rfl⟩
      · rw [List.append_nil] at hother
        exact absurd hin (hother since)
      · refine ⟨before, some (header other) :: (rest ++ [line]), by simp, hin, ?_,
          .inr ⟨other, rest ++ [line], rfl⟩⟩
        rw [← List.cons_append, List.mem_append, List.mem_singleton]
        rintro (hmem | heq)
        · exact hno hmem
        · exact hline name heq.symm

theorem exists_isLastSection (h : some (header name) ∈ lines) :
    ∃ since, IsLastSection lines name since := by
  induction lines using List.reverseRecOn with
  | nil => simp at h
  | append_singleton lines line ih =>
    rcases exists_or_forall_not fun other => line = some (header other) with ⟨other, rfl⟩ | hline
    · by_cases hname : name = other
      · exact ⟨[], isLastSection_concat_header_iff.mpr (.inl ⟨hname, rfl⟩)⟩
      · have hmem : some (header name) ∈ lines := by simpa [header_inj, hname] using h
        obtain ⟨since, hsince⟩ := ih hmem
        exact ⟨since, isLastSection_concat_header_iff.mpr (.inr ⟨hname, hsince⟩)⟩
    · have hmem : some (header name) ∈ lines := by
        rcases List.mem_append.mp h with hmem | hmem
        · exact hmem
        · exact absurd (List.mem_singleton.mp hmem).symm (hline name)
      rcases exists_or_forall_not fun before => InSection lines name before with
        ⟨before, hbefore⟩ | hother
      · exact ⟨before ++ [line], (isLastSection_concat_iff hline).mpr (.inl ⟨before, rfl, hbefore⟩)⟩
      · obtain ⟨since, hsince⟩ := ih hmem
        exact ⟨since, (isLastSection_concat_iff hline).mpr (.inr ⟨hsince, hother⟩)⟩

end Sections

end StaticSite.Spec
