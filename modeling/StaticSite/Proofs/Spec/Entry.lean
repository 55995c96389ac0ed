import Mathlib.Data.List.Induction
import StaticSite.Build.Outcome
import StaticSite.Proofs.Text.Split
import StaticSite.Spec.Line

/-!
# Lines and entries

A line is an entry if `: ` stands in one place of it: then there is one way to cut it into a key,
the separator and a value (`IsEntry`), and that is how it is read (`entry_eq_ok_iff`). All other
lines are refused for the same reason (`entry_eq_error`).

Both spec files are read from the front, with a state. What is known of that state is said in terms
of the lines read so far, a list that grows at its end: hence the lemmas on the last of some lines,
on the last entry with a key, and on a run that goes on where another one has ended.
-/

namespace StaticSite.Spec

/-- A line holds the separator of entries exactly once, between a key and a value. -/
structure IsEntry (line key value : Text) : Prop where
  /-- The separator stands between the two. -/
  line_eq : line = key ++ entrySeparator ++ value
  /-- It stands nowhere else. -/
  unique : ∀ before after, line = before ++ entrySeparator ++ after → before = key ∧ after = value

/-- The key and the value of a line that is an entry. -/
def Line.keyValue? (line : Line) : Option (Text × Text) :=
  line.bind fun text => (entry 0 text).toOption

/-- The value of the last entry with a key. -/
def lastValue? (key : Text) (entries : List (Text × Text)) : Option Text :=
  lookupEntry key entries.reverse

/-! ## Reading an entry -/

section Entry

variable {number : Nat} {line key value : Text}

/-- Two occurrences of the separator do not overlap: the later one stands in the value behind the
earlier one. -/
theorem eq_or_exists_of_append_eq {a b a' b' : Text}
    (h : a ++ entrySeparator ++ b = a' ++ entrySeparator ++ b') (hle : a.length ≤ a'.length) :
    a = a' ∧ b = b' ∨ ∃ between, b = between ++ entrySeparator ++ b' := by
  rw [List.append_assoc, List.append_assoc] at h
  rcases List.append_eq_append_iff.mp h with ⟨between, rfl, hrest⟩ | ⟨between, rfl, hrest⟩
  · match between with
    | [] =>
      rw [List.append_nil]
      exact .inl ⟨rfl, List.append_cancel_left hrest⟩
    | [c] =>
      -- the space of the earlier one would be the colon of the later one
      have hspace : ' ' = ':' := (List.cons.inj (List.cons.inj hrest).2).1
      exact absurd hspace (by decide)
    | c :: d :: between =>
      have hb : b = between ++ (entrySeparator ++ b') := (List.cons.inj (List.cons.inj hrest).2).2
      rw [← List.append_assoc] at hb
      exact .inr ⟨between, hb⟩
  · have hbetween : between = [] := by
      rw [List.length_append] at hle
      exact List.eq_nil_of_length_eq_zero (by omega)
    subst hbetween
    rw [List.append_nil]
    exact .inl ⟨rfl, (List.append_cancel_left hrest).symm⟩

/-- An entry is read as its key and its value. -/
theorem entry_eq_ok_iff : entry number line = .ok (key, value) ↔ IsEntry line key value := by
  unfold entry
  constructor
  · intro h
    cases hsplit : Text.splitOnce? entrySeparator line with
    | none => simp [hsplit] at h
    | some sides =>
      obtain ⟨a, b⟩ := sides
      have hline := Text.eq_append_of_splitOnce? hsplit
      by_cases hcontains : Text.contains entrySeparator b = true
      · simp [hsplit, hcontains] at h
      · simp only [hsplit, if_neg hcontains, Except.ok.injEq, Prod.mk.injEq] at h
        obtain ⟨rfl, rfl⟩ := h
        refine ⟨hline, fun before after hother => ?_⟩
        have hle := Text.length_le_of_splitOnce? hsplit hother
        rw [hline] at hother
        rcases eq_or_exists_of_append_eq hother hle with ⟨rfl, rfl⟩ | ⟨between, hb⟩
        · exact ⟨rfl, rfl⟩
        · exact absurd (Text.contains_iff.mpr ⟨between, after, hb⟩) hcontains
  · intro h
    obtain ⟨⟨a, b⟩, hsplit⟩ := Text.exists_splitOnce? entrySeparator key value
    rw [← h.line_eq] at hsplit
    obtain ⟨rfl, rfl⟩ := h.unique a b (Text.eq_append_of_splitOnce? hsplit)
    have hcontains : ¬ Text.contains entrySeparator b = true := by
      intro hmore
      obtain ⟨x, y, hb⟩ := Text.contains_iff.mp hmore
      have hother : line = (a ++ entrySeparator ++ x) ++ entrySeparator ++ y := by
        rw [h.line_eq, hb]
        simp
      have hlength := congrArg List.length (h.unique _ _ hother).1
      simp [entrySeparator] at hlength
    simp only [hsplit, if_neg hcontains]

theorem entry_eq_error (h : ∀ key value, ¬ IsEntry line key value) :
    entry number line = .error (.malformedLine number (some line)) := by
  cases hentry : entry number line with
  | ok found => exact absurd (entry_eq_ok_iff.mp hentry) (h found.1 found.2)
  | error e =>
    unfold entry at hentry
    split at hentry
    · rw [← hentry]
    · split at hentry
      · rw [← hentry]
      · cases hentry

theorem IsEntry.ne_nil (h : IsEntry line key value) : line ≠ [] := by
  rw [h.line_eq]
  simp [entrySeparator]

theorem Line.keyValue?_of_isEntry (h : IsEntry line key value) :
    Line.keyValue? (some line) = some (key, value) := by
  show (entry 0 line).toOption = _
  rw [entry_eq_ok_iff.mpr h]
  rfl

end Entry

/-! ## The last of some lines or entries -/

section Last

variable {α : Type} {before since after : List α} {last first : α}

theorem append_singleton_eq_append (h : before ++ [last] = since ++ after) :
    after = [] ∧ since = before ++ [last] ∨
      ∃ rest, after = rest ++ [last] ∧ before = since ++ rest := by
  rcases List.eq_nil_or_concat after with rfl | ⟨rest, other, rfl⟩
  · rw [List.append_nil] at h
    exact .inl ⟨rfl, h.symm⟩
  · rw [List.concat_eq_append] at h ⊢
    rw [← List.append_assoc] at h
    obtain ⟨hbefore, hlast⟩ := List.append_inj' h rfl
    exact .inr ⟨rest, by rw [hlast], hbefore⟩

theorem append_singleton_eq_append_cons (h : before ++ [last] = since ++ first :: after) :
    after = [] ∧ before = since ∧ last = first ∨
      ∃ rest, after = rest ++ [last] ∧ before = since ++ first :: rest := by
  rcases append_singleton_eq_append h with ⟨hnil, -⟩ | ⟨rest, hrest, hbefore⟩
  · cases hnil
  · cases rest with
    | nil =>
      obtain ⟨hfirst, hafter⟩ := List.cons.inj hrest
      rw [List.append_nil] at hbefore
      exact .inl ⟨hafter, hbefore, hfirst.symm⟩
    | cons other rest =>
      obtain ⟨rfl, hafter⟩ := List.cons.inj hrest
      exact .inr ⟨rest, hafter, hbefore⟩

end Last

/-! ## Reading one line after another -/

theorem result_run_append {σ : Type} (step : Nat → Line → σ → Outcome σ)
    (run : Nat → List Line → σ → Outcome σ) (hnil : ∀ number s, run number [] s = .ok s)
    (hcons : ∀ number line lines s, run number (line :: lines) s =
      (step number line s).andThen (run (number + 1) lines))
    (number : Nat) (before after : List Line) (s : σ) :
    (run number (before ++ after) s).result =
      (run number before s).result.bind fun middle =>
        (run (number + before.length) after middle).result := by
  induction before generalizing number s with
  | nil =>
    rw [hnil]
    rfl
  | cons line before ih =>
    have hnumber : number + (before.length + 1) = number + 1 + before.length := by omega
    rw [List.cons_append, hcons, hcons, Outcome.result_andThen, Outcome.result_andThen,
      List.length_cons, hnumber]
    cases (step number line s).result with
    | error e => rfl
    | ok next => exact ih (number + 1) next

/-! ## The last entry with a key -/

variable {key : Text} {entries : List (Text × Text)}

@[simp]
theorem lastValue?_nil : lastValue? key [] = none := rfl

theorem lastValue?_concat (k value : Text) :
    lastValue? key (entries ++ [(k, value)]) =
      if k = key then some value else lastValue? key entries := by
  unfold lastValue?
  rw [List.reverse_append]
  rfl

end StaticSite.Spec
