import Mathlib.Logic.Function.Iterate
import StaticSite.Page.Fill
import StaticSite.Proofs.Placeholder.ListBlock

/-!
# Filling in well-formed values

The values that a page can put into a text are those of its variables and of its post fields
(`Page.values`). If they are well-formed, a round of filling in keeps a well-formed text
well-formed, and brings no placeholder into it but those of the values. If they are inert, one round
settles a text (`Page.settleFields_eq`).
-/

namespace StaticSite

theorem mem_values_of_find? {vars : Bindings} {name value : Text}
    (h : vars.find? name = some value) : value ∈ vars.values :=
  List.mem_map.mpr ⟨(name, value), Dictionary.mem_entries_of_find? h, rfl⟩

theorem mem_values_of_variableResolver {vars : Bindings} {p : Placeholder} {value : Text}
    (h : variableResolver vars p = some value) : value ∈ vars.values := by
  unfold variableResolver at h
  split at h
  · exact mem_values_of_find? h
  · cases h

namespace Page

/-- What a page can put into a text: the values of its variables and of its post fields. -/
def values (p : Page) : List Text :=
  p.bindings.values ++ p.fields.map Prod.snd

theorem mem_values_of_fieldResolver {p : Page} {q : Placeholder} {value : Text}
    (h : p.fieldResolver q = some value) : value ∈ p.fields.map Prod.snd := by
  unfold fieldResolver at h
  split at h
  · exact List.mem_map.mpr ⟨(q.body, value), Dictionary.mem_of_lookupEntry h, rfl⟩
  · cases h

section Values

variable {Q : Placeholder → Prop} {p : Page} {t : Text}
  (hp : ∀ value ∈ p.values, WellFormedWith Q value)

include hp

theorem of_variableResolver (q : Placeholder) (value : Text)
    (h : variableResolver p.bindings q = some value) : WellFormedWith Q value :=
  hp value (List.mem_append_left _ (mem_values_of_variableResolver h))

theorem of_fieldResolver (q : Placeholder) (value : Text) (h : p.fieldResolver q = some value) :
    WellFormedWith Q value :=
  hp value (List.mem_append_right _ (mem_values_of_fieldResolver h))

/-- The placeholders after a round are some of the text and of the page's values. -/
theorem wellFormedWith_fillPage (ht : WellFormedWith Q t) : WellFormedWith Q (p.fillPage t) :=
  (ht.substitute (of_variableResolver hp)).substitute (of_fieldResolver hp)

end Values

section WellFormed

variable {p : Page} {t : Text} (hp : ∀ value ∈ p.values, WellFormed value)

include hp

theorem wellFormed_of_variableResolver (q : Placeholder) (value : Text)
    (h : variableResolver p.bindings q = some value) : WellFormed value :=
  hp value (List.mem_append_left _ (mem_values_of_variableResolver h))

theorem wellFormed_of_fieldResolver (q : Placeholder) (value : Text)
    (h : p.fieldResolver q = some value) : WellFormed value :=
  hp value (List.mem_append_right _ (mem_values_of_fieldResolver h))

theorem wellFormed_fillVariables (ht : WellFormed t) : WellFormed (fillVariables p.bindings t) :=
  ht.substitute (wellFormed_of_variableResolver hp)

theorem wellFormed_fillPage (ht : WellFormed t) : WellFormed (p.fillPage t) :=
  (wellFormed_fillVariables hp ht).substitute (wellFormed_of_fieldResolver hp)

theorem wellFormed_iterate_fillPage (ht : WellFormed t) (n : Nat) :
    WellFormed (p.fillPage^[n] t) := by
  induction n generalizing t with
  | zero => exact ht
  | succ n ih => exact ih (wellFormed_fillPage hp ht)

end WellFormed

/-! ## Post fields -/

/-- The names of the post fields. -/
def fieldNames : List Text :=
  ["post-title".toList, "post-author".toList, "post-date".toList, "post-url".toList,
    "post-content".toList, "post-preview".toList, "post-line".toList]

theorem map_fst_fields (p : Page) : p.fields.map Prod.fst = fieldNames := rfl

/-- All pages have the same post fields. -/
theorem field?_eq_none_iff {p : Page} {name : Text} :
    p.field? name = none ↔ name ∉ fieldNames := by
  rw [← p.map_fst_fields, field?, Dictionary.lookupEntry_eq_none_iff]
  constructor
  · intro h hmem
    obtain ⟨e, he, heq⟩ := List.mem_map.mp hmem
    exact h e he heq
  · intro h e he heq
    exact h (List.mem_map.mpr ⟨e, he, heq⟩)

/-- Settling goes on as long as a post field is left. -/
theorem hasPostPlaceholder_of_fieldResolver {p : Page} {t : Text} {q : Placeholder} {value : Text}
    (hq : q ∈ placeholders t) (h : p.fieldResolver q = some value) :
    hasPostPlaceholder t = true := by
  have hnames : ∀ name ∈ fieldNames, Placeholder.isIdentifier name = true := by decide
  unfold fieldResolver at h
  split at h
  · next hsigil =>
    by_cases hname : q.body ∈ fieldNames
    · obtain ⟨o, ho, rfl⟩ := List.mem_map.mp hq
      refine List.any_eq_true.mpr ⟨o, ho, ?_⟩
      rw [Placeholder.identifier?, if_pos (hnames _ hname), hsigil]
      rfl
    · rw [field?_eq_none_iff.mpr hname] at h
      cases h
  · cases h

theorem fillFields_eq_self {p : Page} {t : Text} (h : hasPostPlaceholder t = false) :
    p.fillFields t = t := by
  refine substitute_eq_self fun q hq => ?_
  cases hvalue : p.fieldResolver q with
  | none => rfl
  | some value =>
    rw [hasPostPlaceholder_of_fieldResolver hq hvalue] at h
    cases h

/-! ## Settling -/

theorem settleWithin_of_settled {p : Page} {t : Text} (h : hasPostPlaceholder t = false)
    (name : Text) (rounds : Nat) : p.settleWithin name rounds t = .ok t := by
  unfold settleWithin
  rw [if_pos (by simp [h])]

theorem settleWithin_of_fillPage_ne {p : Page} {t : Text} (hpost : hasPostPlaceholder t = true)
    (h : p.fillPage t ≠ t) (name : Text) (rounds : Nat) :
    p.settleWithin name (rounds + 1) t = p.settleWithin name rounds (p.fillPage t) := by
  rw [settleWithin, if_neg (by simp [hpost])]
  exact if_neg h

theorem settleWithin_of_fillPage_eq_self {p : Page} {t : Text} (h : p.fillPage t = t)
    (name : Text) (rounds : Nat) : p.settleWithin name (rounds + 1) t = .ok t := by
  by_cases hpost : hasPostPlaceholder t = true
  · rw [settleWithin, if_neg (by simp [hpost])]
    exact if_pos h
  · exact settleWithin_of_settled (eq_false_of_ne_true hpost) name _

end Page

end StaticSite
