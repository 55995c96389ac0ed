import StaticSite.Text.Basic

/-!
# Splitting a text at a separator

`splitOnce?` finds the first occurrence of a separator: the text is the two sides with the separator
between them, and no other occurrence begins earlier.
-/

namespace StaticSite.Text

variable {separator t a b a' b' : Text}

theorem eq_append_of_splitOnce? (h : splitOnce? separator t = some (a, b)) :
    t = a ++ separator ++ b := by
  induction t generalizing a with
  | nil =>
    cases separator with
    | nil =>
      obtain ⟨rfl, rfl⟩ := Prod.mk.inj (Option.some.inj h)
      rfl
    | cons s separator => cases h
  | cons c t ih =>
    rw [splitOnce?] at h
    cases hd : dropStart? separator (c :: t) with
    | some rest =>
      rw [hd] at h
      obtain ⟨rfl, rfl⟩ := Prod.mk.inj (Option.some.inj h)
      exact dropStart?_eq_some_iff.mp hd
    | none =>
      rw [hd] at h
      obtain ⟨⟨a', b'⟩, hs, heq⟩ := Option.map_eq_some_iff.mp h
      obtain ⟨rfl, rfl⟩ := Prod.mk.inj heq
      have ht := ih hs
      rw [ht]
      rfl

/-- It is the first occurrence at which a text is split. -/
theorem length_le_of_splitOnce? (h : splitOnce? separator t = some (a, b))
    (ht : t = a' ++ separator ++ b') : a.length ≤ a'.length := by
  induction t generalizing a a' with
  | nil =>
    rw [splitOnce?] at h
    split at h
    · cases h
      exact Nat.zero_le _
    · cases h
  | cons c t ih =>
    rw [splitOnce?] at h
    cases hd : dropStart? separator (c :: t) with
    | some rest =>
      rw [hd] at h
      cases h
      exact Nat.zero_le _
    | none =>
      rw [hd] at h
      obtain ⟨⟨a₁, b₁⟩, hs, heq⟩ := Option.map_eq_some_iff.mp h
      cases heq
      cases a' with
      | nil =>
        have hstart : dropStart? separator (c :: t) = some b' := dropStart?_eq_some_iff.mpr ht
        rw [hd] at hstart
        cases hstart
      | cons d a' =>
        have htail : t = a' ++ separator ++ b' := (List.cons.inj ht).2
        exact Nat.succ_le_succ (ih hs htail)

theorem exists_splitOnce? (separator a b : Text) :
    ∃ sides, splitOnce? separator (a ++ separator ++ b) = some sides := by
  induction a with
  | nil =>
    have hstart : dropStart? separator (separator ++ b) = some b := dropStart?_eq_some_iff.mpr rfl
    rw [List.nil_append]
    cases ht : separator ++ b with
    | nil =>
      obtain ⟨rfl, -⟩ := List.append_eq_nil_iff.mp ht
      exact ⟨_, rfl⟩
    | cons c t =>
      rw [ht] at hstart
      rw [splitOnce?, hstart]
      exact ⟨_, rfl⟩
  | cons c a ih =>
    obtain ⟨sides, hsides⟩ := ih
    rw [List.cons_append, List.cons_append, splitOnce?, hsides]
    cases dropStart? separator (c :: (a ++ separator ++ b)) with
    | some rest => exact ⟨_, rfl⟩
    | none => exact ⟨_, rfl⟩

/-- A text is split at the first of several separators. -/
theorem splitOnce?_append_cons {c : Char} {a : Text} (h : c ∉ a) (b : Text) :
    splitOnce? [c] (a ++ c :: b) = some (a, b) := by
  induction a with
  | nil =>
    rw [List.nil_append, splitOnce?, dropStart?, if_pos rfl]
    rfl
  | cons d a ih =>
    have hne : c ≠ d := List.ne_of_not_mem_cons h
    rw [List.cons_append, splitOnce?, dropStart?, if_neg hne,
      ih (List.not_mem_of_not_mem_cons h)]
    rfl

theorem contains_iff : contains separator t = true ↔ ∃ a b, t = a ++ separator ++ b := by
  unfold contains
  rw [Option.isSome_iff_exists]
  constructor
  · rintro ⟨⟨a, b⟩, h⟩
    exact ⟨a, b, eq_append_of_splitOnce? h⟩
  · rintro ⟨a, b, rfl⟩
    exact exists_splitOnce? separator a b

theorem dropEnd?_eq_some_iff {ending rest : Text} :
    dropEnd? ending t = some rest ↔ t = rest ++ ending := by
  unfold dropEnd?
  rw [Option.map_eq_some_iff]
  constructor
  · rintro ⟨rest, h, rfl⟩
    have hreverse := congrArg List.reverse (dropStart?_eq_some_iff.mp h)
    simpa using hreverse
  · rintro rfl
    exact ⟨rest.reverse, dropStart?_eq_some_iff.mpr List.reverse_append, List.reverse_reverse rest⟩

end StaticSite.Text
