import Mathlib.Data.List.Sort
import StaticSite.Page.Select
import StaticSite.Proofs.Text.ByteOrder

/-!
# The most recent pages of a group

The pages of a group are sorted by their dates alone, with a sort that keeps the order of pages with
one date; and since they come in the order of their names, the result is in the order `ListedBefore`
by date and name (`pairwise_mergeSort`). That order is strict and total, so there is one list of the
group's pages in it, and a list block shows a beginning of that list.
-/

namespace StaticSite

/-- The order of a list block: the greater date first, and of two pages with one date the one with
the lesser name. Dates and names are compared by their bytes. -/
def ListedBefore (d e : Text × Page) : Prop :=
  Text.bytes e.2.date < Text.bytes d.2.date ∨
    e.2.date = d.2.date ∧ Text.bytes d.1 < Text.bytes e.1

/-- A page with its name, as if it did not ask to be left out of lists. -/
def listedAnyway (e : Text × Page) : Text × Page :=
  (e.1, { e.2 with unlisted := false })

/-- Two sites have the same pages in a group, if it does not count which of them ask to be left out
of lists. -/
def SameInGroup (group : Text) (pages other : PageSet) : Prop :=
  ∀ (name : Text) (page : Page), page.group = group →
    ((∃ unlisted, pages.find? name = some { page with unlisted }) ↔
      ∃ unlisted, other.find? name = some { page with unlisted })

theorem listedBefore_iff {d e : Text × Page} :
    ListedBefore d e ↔ e.2.date < d.2.date ∨ e.2.date = d.2.date ∧ d.1 < e.1 := by
  unfold ListedBefore
  rw [Text.bytes_lt_bytes_iff, Text.bytes_lt_bytes_iff]

instance : Std.Irrefl ListedBefore where
  irrefl e h := by
    rcases listedBefore_iff.mp h with hdate | ⟨-, hname⟩
    · exact OrderedKey.lt_irrefl _ hdate
    · exact OrderedKey.lt_irrefl _ hname

/-- Of two pages only one can stand before the other. -/
instance : Std.Antisymm ListedBefore where
  antisymm d e hde hed := by
    rcases listedBefore_iff.mp hde with hdate | ⟨hdate, hname⟩
    · rcases listedBefore_iff.mp hed with hback | ⟨hback, -⟩
      · exact absurd (OrderedKey.lt_trans hdate hback) (OrderedKey.lt_irrefl _)
      · exact absurd (hback ▸ hdate) (OrderedKey.lt_irrefl _)
    · rcases listedBefore_iff.mp hed with hback | ⟨-, hback⟩
      · exact absurd (hdate ▸ hback) (OrderedKey.lt_irrefl _)
      · exact absurd (OrderedKey.lt_trans hname hback) (OrderedKey.lt_irrefl _)

namespace PageSet

/-! ## Sorting by date -/

theorem notOlder_iff {d e : Text × Page} : notOlder d e = true ↔ ¬ d.2.date < e.2.date := by
  simp [notOlder]

theorem notOlder_trans (c d e : Text × Page) (hcd : notOlder c d = true)
    (hde : notOlder d e = true) : notOlder c e = true := by
  rw [notOlder_iff] at hcd hde ⊢
  intro hce
  rcases OrderedKey.lt_trichotomy c.2.date d.2.date with h | h | h
  · exact hcd h
  · exact hde (h ▸ hce)
  · exact hde (OrderedKey.lt_trans h hce)

theorem notOlder_total (d e : Text × Page) : (notOlder d e || notOlder e d) = true := by
  rw [Bool.or_eq_true, notOlder_iff, notOlder_iff]
  by_cases h : d.2.date < e.2.date
  · right
    intro hback
    exact OrderedKey.lt_irrefl _ (OrderedKey.lt_trans h hback)
  · exact .inl h

/-- Pages that come in the order of their names are sorted by date and name. -/
theorem pairwise_mergeSort {es : List (Text × Page)} (h : es.Pairwise fun d e => d.1 < e.1) :
    (es.mergeSort notOlder).Pairwise ListedBefore := by
  induction es with
  | nil => simp
  | cons d es ih =>
    -- the first page comes to stand behind all pages that are more recent, and before all others
    obtain ⟨before, after, hall, hrest, hmore⟩ :=
      List.mergeSort_cons notOlder_trans notOlder_total d es
    have hsorted := List.pairwise_mergeSort notOlder_trans notOlder_total (d :: es)
    have hothers := ih h.of_cons
    have hname : ∀ e ∈ after, d.1 < e.1 := by
      intro e he
      have hmem : e ∈ es.mergeSort notOlder := by
        rw [hrest]
        exact List.mem_append_right _ he
      exact (List.pairwise_cons.mp h).1 e (List.mem_mergeSort.mp hmem)
    rw [hrest] at hothers
    rw [hall] at hsorted ⊢
    obtain ⟨hbefore, hafter, hacross⟩ := List.pairwise_append.mp hothers
    have hnotOlder : ∀ e ∈ after, notOlder d e = true :=
      (List.pairwise_cons.mp (List.pairwise_append.mp hsorted).2.1).1
    have hd : ∀ e ∈ after, ListedBefore d e := by
      intro e he
      rw [listedBefore_iff]
      rcases OrderedKey.lt_trichotomy e.2.date d.2.date with hlt | heq | hgt
      · exact .inl hlt
      · exact .inr ⟨heq, hname e he⟩
      · exact absurd hgt (notOlder_iff.mp (hnotOlder e he))
    have hbefored : ∀ c ∈ before, ListedBefore c d := by
      intro c hc
      have hlater : ¬ notOlder d c = true := by
        have := hmore c hc
        simpa using this
      rw [notOlder_iff, not_not] at hlater
      exact listedBefore_iff.mpr (.inl hlater)
    refine List.pairwise_append.mpr ⟨hbefore, .cons hd hafter, ?_⟩
    intro c hc e he
    rcases List.mem_cons.mp he with rfl | he
    · exact hbefored c hc
    · exact hacross c hc e he

/-! ## The pages of a group -/

variable (pages : PageSet) (group : Text)

theorem pairwise_mostRecent : (mostRecent pages group).Pairwise ListedBefore :=
  pairwise_mergeSort (pages.ordered.sublist List.filter_sublist)

theorem mem_mostRecent_iff {pages : PageSet} {group : Text} {e : Text × Page} :
    e ∈ mostRecent pages group ↔ pages.find? e.1 = some e.2 ∧ e.2.group = group := by
  unfold mostRecent ofGroup
  rw [List.mem_mergeSort, List.mem_filter, decide_eq_true_iff]
  constructor
  · rintro ⟨hentry, hgroup⟩
    exact ⟨Dictionary.find?_of_mem_entries hentry, hgroup⟩
  · rintro ⟨hfind, hgroup⟩
    exact ⟨Dictionary.mem_entries_of_find? hfind, hgroup⟩

theorem nodup_names_mostRecent : ((mostRecent pages group).map Prod.fst).Nodup := by
  have hperm := (List.mergeSort_perm (ofGroup pages group) notOlder).map Prod.fst
  have hgroup : ((ofGroup pages group).map Prod.fst).Nodup :=
    pages.nodup_keys.sublist (List.filter_sublist.map Prod.fst)
  exact hperm.nodup_iff.mpr hgroup

theorem length_mostRecent :
    (mostRecent pages group).length = pages.values.countP fun p => p.group = group := by
  unfold mostRecent ofGroup Dictionary.values
  rw [List.length_mergeSort, ← List.countP_eq_length_filter, List.countP_map]
  rfl

theorem mem_map_listedAnyway_iff {pages : PageSet} {group : Text} {e : Text × Page} :
    e ∈ (mostRecent pages group).map listedAnyway ↔ e.2.unlisted = false ∧ e.2.group = group ∧
      ∃ unlisted, pages.find? e.1 = some { e.2 with unlisted } := by
  rw [List.mem_map]
  constructor
  · rintro ⟨d, hd, rfl⟩
    obtain ⟨hfind, hgroup⟩ := mem_mostRecent_iff.mp hd
    exact ⟨rfl, hgroup, d.2.unlisted, hfind⟩
  · rintro ⟨hlisted, hgroup, unlisted, hfind⟩
    refine ⟨(e.1, { e.2 with unlisted }), mem_mostRecent_iff.mpr ⟨hfind, hgroup⟩, ?_⟩
    show (e.1, { e.2 with unlisted := false }) = e
    rw [← hlisted]

/-- The order looks at dates and names only, so it is the same for pages that ask to be left out. -/
theorem map_listedAnyway_mostRecent {group : Text} {pages other : PageSet}
    (h : SameInGroup group pages other) :
    (mostRecent pages group).map listedAnyway = (mostRecent other group).map listedAnyway := by
  have hordered (set : PageSet) :
      ((mostRecent set group).map listedAnyway).Pairwise ListedBefore :=
    List.pairwise_map.mpr (pairwise_mostRecent set group)
  refine (hordered pages).eq_of_mem_iff (hordered other) fun e => ?_
  rw [mem_map_listedAnyway_iff, mem_map_listedAnyway_iff]
  constructor
  · rintro ⟨hlisted, hgroup, hfind⟩
    exact ⟨hlisted, hgroup, (h e.1 e.2 hgroup).mp hfind⟩
  · rintro ⟨hlisted, hgroup, hfind⟩
    exact ⟨hlisted, hgroup, (h e.1 e.2 hgroup).mpr hfind⟩

/-! ## A list block -/

/-- A list shows the `count` most recent pages of a group. -/
structure ShowsMostRecent (pages : PageSet) (group : Text) (count : Nat)
    (selected : List (Text × Page)) : Prop where
  /-- It shows pages of the group. -/
  ofGroup : ∀ e ∈ selected, pages.find? e.1 = some e.2 ∧ e.2.group = group
  /-- It shows no page twice. -/
  nodup : (selected.map Prod.fst).Nodup
  /-- It shows as many as it may, and as there are. -/
  length_eq : selected.length = min count (pages.values.countP fun p => p.group = group)
  /-- It shows them in order. -/
  ordered : selected.Pairwise ListedBefore
  /-- The pages that it leaves out would come behind those that it shows. -/
  leftOut : ∀ (name : Text) (page : Page), pages.find? name = some page → page.group = group →
    (name, page) ∉ selected → ∀ e ∈ selected, ListedBefore e (name, page)

/-- A list block shows the most recent pages of its group. One with a lesser number shows a
beginning of that, and neither the pages of other groups nor the wish not to be listed count. -/
theorem select_showsMostRecent (pages : PageSet) (group : Text) (count : Nat) :
    ShowsMostRecent pages group count (select pages group count) ∧
      (∀ less ≤ count, select pages group less <+: select pages group count) ∧
      ∀ other, SameInGroup group pages other →
        (select pages group count).map listedAnyway =
          (select other group count).map listedAnyway := by
  have hsplit := List.take_append_drop count (mostRecent pages group)
  have hordered := pairwise_mostRecent pages group
  rw [← hsplit] at hordered
  obtain ⟨htaken, -, hacross⟩ := List.pairwise_append.mp hordered
  refine ⟨⟨?_, ?_, ?_, htaken, ?_⟩, ?_, ?_⟩
  · intro e he
    exact mem_mostRecent_iff.mp (List.mem_of_mem_take he)
  · exact (nodup_names_mostRecent pages group).sublist ((List.take_sublist _ _).map _)
  · unfold select
    rw [List.length_take, length_mostRecent]
  · intro name page hfind hgroup hnot e he
    have hmem : (name, page) ∈ mostRecent pages group := mem_mostRecent_iff.mpr ⟨hfind, hgroup⟩
    rw [← hsplit] at hmem
    exact hacross e he _ ((List.mem_append.mp hmem).resolve_left hnot)
  · intro less hle
    exact List.take_prefix_take_left hle
  · intro other hsame
    unfold select
    rw [List.map_take, List.map_take, map_listedAnyway_mostRecent hsame]

end PageSet

end StaticSite
