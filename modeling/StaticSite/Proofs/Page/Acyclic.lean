import StaticSite.Proofs.Page.Settle
import StaticSite.Proofs.Placeholder.Grammar
import StaticSite.Proofs.Text.Letters

/-!
# Settling without circles

The variables and the post fields of a page are its entries, named by the placeholders that ask for
them. An entry refers to another one if its value has a placeholder for it (`Page.Refers`); a page
is acyclic if no entry leads back to itself.

Each placeholder of an entry that a round leaves behind was brought by the value of an entry that
the round filled in (`Page.exists_transGen_of_mem_fillPage`). So what is left after `k` rounds is
the end of a chain of `k + 1` entries, and these are all different
(`Page.lt_length_entries_of_mem_iterate`). Hence nothing is left after as many rounds as there are
entries, and settling is done by then (`Page.settleFields_of_acyclic`), however much the text grows.
-/

namespace StaticSite

namespace Page

/-- The value of the entry that a placeholder asks for. -/
def value? (p : Page) : Resolver := fun q =>
  variableResolver p.bindings q <|> p.fieldResolver q

/-- The placeholders that ask for an entry. -/
def entries (p : Page) : List Placeholder :=
  p.bindings.keys.map (⟨.value, ·⟩) ++ fieldNames.map (⟨.post, ·⟩)

/-- The value of the entry `a` has a placeholder for the entry `b`. -/
def Refers (p : Page) (a b : Placeholder) : Prop :=
  ∃ value, p.value? a = some value ∧ b ∈ placeholders value ∧ (p.value? b).isSome

/-- No entry refers to itself, neither directly nor through others. -/
def Acyclic (p : Page) : Prop :=
  ∀ a, ¬ Relation.TransGen p.Refers a a

section Entries

variable {p : Page}

theorem length_entries (p : Page) :
    p.entries.length = fieldNames.length + p.bindings.size := by
  rw [entries, List.length_append, List.length_map, List.length_map, Dictionary.keys,
    List.length_map, Nat.add_comm]
  rfl

theorem value?_of_variableResolver {q : Placeholder} {value : Text}
    (h : variableResolver p.bindings q = some value) : p.value? q = some value := by
  rw [value?, h]
  rfl

theorem value?_of_fieldResolver {q : Placeholder} {value : Text}
    (h : p.fieldResolver q = some value) : p.value? q = some value := by
  obtain ⟨sigil, body⟩ := q
  cases sigil with
  | template => cases h
  | value => cases h
  | post => exact h

theorem mem_entries {q : Placeholder} (h : (p.value? q).isSome) : q ∈ p.entries := by
  obtain ⟨sigil, body⟩ := q
  cases sigil with
  | template => cases h
  | value =>
    obtain ⟨value, hvalue⟩ := Option.isSome_iff_exists.mp h
    have hfind : p.bindings.find? body = some value := by
      simpa [value?, variableResolver, fieldResolver] using hvalue
    have hkey : body ∈ p.bindings.keys :=
      List.mem_map.mpr ⟨_, Dictionary.mem_entries_of_find? hfind, rfl⟩
    exact List.mem_append_left _ (List.mem_map.mpr ⟨body, hkey, rfl⟩)
  | post =>
    have hname : body ∈ fieldNames := by
      refine Decidable.of_not_not fun hname => ?_
      have hnone : p.value? ⟨.post, body⟩ = none := field?_eq_none_iff.mpr hname
      rw [hnone] at h
      cases h
    exact List.mem_append_right _ (List.mem_map.mpr ⟨body, hname, rfl⟩)

theorem isSome_of_transGen {a b : Placeholder} (h : Relation.TransGen p.Refers a b) :
    (p.value? a).isSome := by
  obtain ⟨c, ⟨value, hvalue, -⟩, -⟩ := Relation.TransGen.head'_iff.mp h
  rw [hvalue]
  rfl

/-- Entries that can be ranked so that each refers to entries of lower rank only make no circle. -/
theorem acyclic_of_rank (rank : Placeholder → Nat)
    (h : ∀ a ∈ p.entries, ∀ b ∈ placeholders ((p.value? a).getD []), (p.value? b).isSome →
      rank b < rank a) : p.Acyclic := by
  have hstep : ∀ a b, p.Refers a b → rank b < rank a := by
    rintro a b ⟨value, hvalue, hb, hentry⟩
    have ha : a ∈ p.entries := mem_entries (by rw [hvalue]; rfl)
    exact h a ha b (by rwa [hvalue]) hentry
  have hchain : ∀ a b, Relation.TransGen p.Refers a b → rank b < rank a := by
    intro a b hab
    induction hab with
    | single hab => exact hstep _ _ hab
    | tail _ hbc ih => exact Nat.lt_trans (hstep _ _ hbc) ih
  exact fun a ha => Nat.lt_irrefl _ (hchain a a ha)

end Entries

/-! ## Rounds and chains of entries -/

section Rounds

variable {p : Page} {t : Text} (hp : ∀ value ∈ p.values, WellFormed value)

include hp

/-- The step lemma: a placeholder of an entry that is left after a round was brought by an entry
that was in the text before, or by one that this one brought. -/
theorem exists_transGen_of_mem_fillPage (ht : WellFormed t) {q : Placeholder}
    (hq : q ∈ placeholders (p.fillPage t)) (hentry : (p.value? q).isSome) :
    ∃ a ∈ placeholders t, Relation.TransGen p.Refers a q := by
  rw [fillPage, fillFields, (wellFormed_fillVariables hp ht).placeholders_substitute
    (wellFormed_of_fieldResolver hp)] at hq
  obtain ⟨b, hb, hq⟩ := List.mem_flatMap.mp hq
  rw [fillVariables, ht.placeholders_substitute (wellFormed_of_variableResolver hp)] at hb
  obtain ⟨a, ha, hb⟩ := List.mem_flatMap.mp hb
  refine ⟨a, ha, ?_⟩
  cases hvariable : variableResolver p.bindings a with
  | none =>
    rw [hvariable] at hb
    obtain rfl := List.mem_singleton.mp hb
    cases hfield : p.fieldResolver b with
    | none =>
      -- an entry does not outlast a round
      rw [hfield] at hq
      obtain rfl := List.mem_singleton.mp hq
      rw [value?, hvariable, hfield] at hentry
      cases hentry
    | some value =>
      rw [hfield] at hq
      exact .single ⟨value, value?_of_fieldResolver hfield, hq, hentry⟩
  | some value =>
    rw [hvariable] at hb
    have hvalue := value?_of_variableResolver hvariable
    cases hfield : p.fieldResolver b with
    | none =>
      rw [hfield] at hq
      obtain rfl := List.mem_singleton.mp hq
      exact .single ⟨value, hvalue, hb, hentry⟩
    | some value' =>
      rw [hfield] at hq
      have hvalue' := value?_of_fieldResolver hfield
      exact .tail (.single ⟨value, hvalue, hb, by rw [hvalue']; rfl⟩) ⟨value', hvalue', hq, hentry⟩

/-- The run lemma: a placeholder of an entry that is left after `k` rounds is the end of a chain of
`k + 1` entries, and in an acyclic page these are all different. -/
theorem lt_length_entries_of_mem_iterate (ht : WellFormed t) (hacyclic : p.Acyclic) {k : Nat}
    {q : Placeholder} (hq : q ∈ placeholders (p.fillPage^[k] t)) (hentry : (p.value? q).isSome) :
    k < p.entries.length := by
  have hstep : ∀ n q, q ∈ placeholders (p.fillPage^[n + 1] t) ∧ (p.value? q).isSome →
      ∃ a, Relation.TransGen p.Refers a q ∧
        a ∈ placeholders (p.fillPage^[n] t) ∧ (p.value? a).isSome := by
    rintro n q ⟨hq, hentry⟩
    rw [Function.iterate_succ_apply'] at hq
    obtain ⟨a, ha, haq⟩ :=
      exists_transGen_of_mem_fillPage hp (wellFormed_iterate_fillPage hp ht n) hq hentry
    exact ⟨a, haq, ha, isSome_of_transGen haq⟩
  exact lt_length_of_descent (r := fun q a => Relation.TransGen p.Refers a q)
    (L := fun n q => q ∈ placeholders (p.fillPage^[n] t) ∧ (p.value? q).isSome)
    (fun _ _ _ hqa hab => hab.trans hqa) hacyclic hstep (fun _ _ h => mem_entries h.2) ⟨hq, hentry⟩

end Rounds

/-! ## Settling -/

/-- A text without placeholders of entries is filled in. -/
theorem fillPage_eq_self {p : Page} {t : Text} (h : ∀ q ∈ placeholders t, p.value? q = none) :
    p.fillPage t = t := by
  have hnone : ∀ q ∈ placeholders t,
      variableResolver p.bindings q = none ∧ p.fieldResolver q = none :=
    fun q hq => by simpa [value?] using h q hq
  rw [fillPage, fillVariables, substitute_eq_self fun q hq => (hnone q hq).1]
  exact substitute_eq_self fun q hq => (hnone q hq).2

/-- Each post field has a value. -/
theorem exists_fieldResolver_eq_some (p : Page) {field : Text} (h : field ∈ fieldNames) :
    ∃ value, p.fieldResolver ⟨.post, field⟩ = some value :=
  Option.ne_none_iff_exists'.mp fun hnone => field?_eq_none_iff.mp hnone h

/-- Settling an acyclic page takes at most as many rounds as it has post fields and variables, and
leaves no post field in the text. -/
theorem settleFields_of_acyclic {p : Page} {t : Text} (ht : WellFormed t)
    (hp : ∀ value ∈ p.values, WellFormed value) (hacyclic : p.Acyclic) (name : Text) :
    ∃ n ≤ fieldNames.length + p.bindings.size, p.SettlesAfter t n ∧
      p.settleFields name t = .ok (p.fillPage^[n] t) ∧
      ∀ field ∈ fieldNames, ¬ (⟨.post, field⟩ : Placeholder).raw <:+: p.fillPage^[n] t := by
  have hnone : ∀ q ∈ placeholders (p.fillPage^[fieldNames.length + p.bindings.size] t),
      p.value? q = none := by
    intro q hq
    cases hvalue : p.value? q with
    | none => rfl
    | some value =>
      have hlt := lt_length_entries_of_mem_iterate hp ht hacyclic hq (by rw [hvalue]; rfl)
      rw [length_entries] at hlt
      exact absurd hlt (Nat.lt_irrefl _)
  have hrest := fillPage_eq_self hnone
  obtain ⟨n, hn, hafter⟩ := exists_settlesAfter (.inr hrest)
  have hlimit : n < p.roundLimit := Nat.lt_succ_of_le hn
  refine ⟨n, hn, hafter, settleWithin_eq_ok_iff.mpr ⟨n, hafter, .inl hlimit, rfl⟩, ?_⟩
  intro field hfield hinfix
  have hbodies : ∀ field ∈ fieldNames, IsBody field := by decide
  have hq := mem_placeholders_iff.mpr ⟨hbodies field hfield, hinfix⟩
  obtain ⟨value, hvalue⟩ := p.exists_fieldResolver_eq_some hfield
  rcases hafter.settled with hfree | hsame
  · rw [hasPostPlaceholder_of_fieldResolver hq hvalue] at hfree
    cases hfree
  · -- the text has come to rest, so it still has the field after all rounds
    obtain ⟨m, hm⟩ := Nat.exists_eq_add_of_le' hn
    have hlast : p.fillPage^[fieldNames.length + p.bindings.size] t = p.fillPage^[n] t := by
      rw [hm, Function.iterate_add_apply]
      exact Function.iterate_fixed hsame m
    rw [← hlast] at hq
    have hleft := hnone _ hq
    rw [value?_of_fieldResolver hvalue] at hleft
    cases hleft

/-- A variable that leads to the title and to the date, and a title that leads to the date. -/
theorem settleFields_of_acyclic_shared :
    let p : Page := {
      title := "#{post-date}".toList
      date := "1".toList
      bindings := .ofList [("v".toList, "#{post-title}#{post-date}".toList)] }
    WellFormed "@{v}#{post-title}".toList ∧ (∀ value ∈ p.values, WellFormed value) ∧ p.Acyclic ∧
      ∃ n ≤ fieldNames.length + p.bindings.size, p.SettlesAfter "@{v}#{post-title}".toList n ∧
        p.settleFields "p".toList "@{v}#{post-title}".toList =
          .ok (p.fillPage^[n] "@{v}#{post-title}".toList) ∧
        ∀ field ∈ fieldNames,
          ¬ (⟨.post, field⟩ : Placeholder).raw <:+: p.fillPage^[n] "@{v}#{post-title}".toList := by
  intro p
  have ht : WellFormed "@{v}#{post-title}".toList := by decide
  have hp : ∀ value ∈ p.values, WellFormed value := by decide
  have hacyclic : p.Acyclic :=
    acyclic_of_rank (fun q =>
      if q.sigil = .value then 2 else if q.body = "post-title".toList then 1 else 0) (by decide)
  exact ⟨ht, hp, hacyclic, settleFields_of_acyclic ht hp hacyclic _⟩

end Page

end StaticSite
