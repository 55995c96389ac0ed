import Mathlib.Data.Multiset.DershowitzManna
import StaticSite.Proofs.Page.Listing

/-!
# Lineages along the expansions

A page brings list starts into a repetition when the filled-in body has more of them than the body.
The new starts get the lineage of the block and the page, which must not be in it yet. So a lineage
names a page at most once (`Sound`), and it is at most as long as the page set.

This bounds how often pages can bring starts, as long as the other starts of a block do not
multiply. An expansion is `Guarded` when its block has a lineage and at most one page keeps starts
of the body. It takes away the lineage of the block and puts longer ones in its place, finitely many
of them, which descends in the multiset order on what the lineages lack to the full length
(`weights_replaced_lt`).
-/

namespace StaticSite

namespace PageSet

/-- The group and the name of each page. -/
def sources (pages : PageSet) : List (Text × Text) :=
  pages.entries.map fun e => (e.2.group, e.1)

theorem mem_sources_of_mem_select {pages : PageSet} {group : Text} {count : Nat}
    {e : Text × Page} (h : e ∈ select pages group count) : (group, e.1) ∈ sources pages := by
  obtain ⟨hentry, rfl⟩ := mem_select h
  exact List.mem_map.mpr ⟨e, hentry, rfl⟩

end PageSet

namespace Listing

variable {pages : PageSet} {l new : Listing} {block : ListBlock}

/-! ## The lineages of a repetition -/

/-- The page brings list starts into a repetition of the block. -/
def Brings (block : ListBlock) (page : Page) : Prop :=
  ListBlock.countStarts block.body < ListBlock.countStarts (page.fillPage block.body)

instance (block : ListBlock) (page : Page) : Decidable (Brings block page) :=
  inferInstanceAs (Decidable (_ < _))

/-- The page brings no list starts into a repetition of the block, and the repetition has some. -/
def Keeps (block : ListBlock) (page : Page) : Prop :=
  ¬ Brings block page ∧ 0 < ListBlock.countStarts (page.fillPage block.body)

instance (block : ListBlock) (page : Page) : Decidable (Keeps block page) :=
  inferInstanceAs (Decidable (_ ∧ _))

/-- The lineages that a repetition takes over from the body. -/
def kept (l : Listing) (block : ListBlock) (e : Text × Page) : List Lineage :=
  if Brings block e.2 then []
  else (l.inner block).take (ListBlock.countStarts (e.2.fillPage block.body))

/-- The lineages that a repetition adds. -/
def grown (l : Listing) (block : ListBlock) (e : Text × Page) : List Lineage :=
  if Brings block e.2 then
    List.replicate (ListBlock.countStarts (e.2.fillPage block.body))
      (l.lineage ++ [(block.start.group, e.1)])
  else []

/-- A page brings starts only into blocks whose lineage does not name it. -/
def Admits (l : Listing) (block : ListBlock) (e : Text × Page) : Prop :=
  Brings block e.2 → (block.start.group, e.1) ∉ l.lineage

theorem repetition_eq_ok {name : Text} {page : Page} {one : Listing}
    (h : l.repetition block name page = .ok one) :
    one.lineages = l.kept block (name, page) ++ l.grown block (name, page) ∧
      l.Admits block (name, page) := by
  unfold repetition at h
  by_cases hbrings : Brings block page
  · have hlt : ListBlock.countStarts block.body <
        ListBlock.countStarts (page.fillPage block.body) := hbrings
    simp only [if_pos hlt] at h
    split at h
    · cases h
    · next hadmitted =>
      cases h
      rw [kept, grown, if_pos hbrings, if_pos hbrings]
      exact ⟨rfl, fun _ => hadmitted⟩
  · have hnot : ¬ ListBlock.countStarts block.body <
        ListBlock.countStarts (page.fillPage block.body) := hbrings
    simp only [if_neg hnot] at h
    cases h
    rw [kept, grown, if_neg hbrings, if_neg hbrings, List.append_nil]
    exact ⟨rfl, fun hb => absurd hb hbrings⟩

theorem repetition_eq_error {name : Text} {page : Page} {e : BuildError}
    (h : l.repetition block name page = .error e) : e = .cyclicList block.start.group := by
  unfold repetition at h
  dsimp only at h
  split at h
  · split at h <;> cases h
    rfl
  · cases h

theorem repetitions_eq_ok {es : List (Text × Page)} (h : l.repetitions block es = .ok new) :
    new.lineages = es.flatMap (fun e => l.kept block e ++ l.grown block e) ∧
      ∀ e ∈ es, l.Admits block e := by
  induction es generalizing new with
  | nil =>
    cases h
    exact ⟨rfl, fun _ he => absurd he List.not_mem_nil⟩
  | cons e es ih =>
    obtain ⟨name, page⟩ := e
    rw [repetitions] at h
    cases hone : l.repetition block name page with
    | error e =>
      rw [hone] at h
      cases h
    | ok one =>
      cases hmore : l.repetitions block es with
      | error e =>
        rw [hone, hmore] at h
        cases h
      | ok more =>
        rw [hone, hmore] at h
        cases h
        obtain ⟨hlineages, hadmitted⟩ := repetition_eq_ok hone
        obtain ⟨hrest, hadmits⟩ := ih hmore
        refine ⟨?_, List.forall_mem_cons.mpr ⟨hadmitted, hadmits⟩⟩
        rw [List.flatMap_cons, hlineages, hrest]

theorem repetitions_eq_error {es : List (Text × Page)} {e : BuildError}
    (h : l.repetitions block es = .error e) : e = .cyclicList block.start.group := by
  induction es with
  | nil => cases h
  | cons d es ih =>
    obtain ⟨name, page⟩ := d
    rw [repetitions] at h
    cases hone : l.repetition block name page with
    | error e =>
      rw [hone] at h
      cases h
      exact repetition_eq_error hone
    | ok one =>
      cases hmore : l.repetitions block es with
      | error e =>
        rw [hone, hmore] at h
        cases h
        exact ih hmore
      | ok more =>
        rw [hone, hmore] at h
        cases h

/-! ## Sound lineages -/

/-- A lineage names pages of the page set, each at most once. -/
structure Sound (pages : PageSet) (lineage : Lineage) : Prop where
  /-- No page is named twice. -/
  nodup : lineage.Nodup
  /-- Pages of the page set are named. -/
  subset : lineage ⊆ PageSet.sources pages

theorem Sound.nil : Sound pages [] := ⟨List.nodup_nil, List.nil_subset _⟩

theorem Sound.length_le {lineage : Lineage} (h : Sound pages lineage) :
    lineage.length ≤ pages.size := by
  have hle := (List.subperm_of_subset h.nodup h.subset).length_le
  rwa [PageSet.sources, List.length_map] at hle

theorem Sound.concat {lineage : Lineage} (h : Sound pages lineage) {source : Text × Text}
    (hnew : source ∉ lineage) (hsource : source ∈ PageSet.sources pages) :
    Sound pages (lineage ++ [source]) where
  nodup := by
    rw [List.nodup_append]
    refine ⟨h.nodup, List.nodup_singleton source, fun a ha b hb heq => ?_⟩
    rw [List.mem_singleton.mp hb] at heq
    exact hnew (heq ▸ ha)
  subset := List.append_subset.mpr ⟨h.subset, List.cons_subset.mpr ⟨hsource, List.nil_subset _⟩⟩

/-- All lineages of a listing are sound. -/
def AllSound (pages : PageSet) (l : Listing) : Prop :=
  ∀ lineage ∈ l.lineages, Sound pages lineage

theorem allSound_ofText (pages : PageSet) (t : Text) : AllSound pages (ofText t) := by
  intro lineage h
  rw [List.eq_of_mem_replicate h]
  exact .nil

theorem AllSound.lineage (h : AllSound pages l) : Sound pages l.lineage := by
  unfold Listing.lineage
  cases hl : l.lineages with
  | nil => exact .nil
  | cons first rest => exact h first (by rw [hl]; exact List.mem_cons_self)

theorem mem_lineages_of_mem_inner {x : Lineage} (h : x ∈ l.inner block) : x ∈ l.lineages :=
  List.mem_of_mem_drop (List.mem_of_mem_take h)

theorem mem_inner_of_mem_kept {e : Text × Page} {x : Lineage} (h : x ∈ l.kept block e) :
    x ∈ l.inner block := by
  unfold kept at h
  split at h
  · exact absurd h List.not_mem_nil
  · exact List.mem_of_mem_take h

/-- What a repetition adds is the lineage of the block with the page, which is longer and sound. -/
theorem eq_of_mem_grown {e : Text × Page} {x : Lineage} (h : x ∈ l.grown block e) :
    Brings block e.2 ∧ x = l.lineage ++ [(block.start.group, e.1)] := by
  unfold grown at h
  split at h
  · next hbrings => exact ⟨hbrings, List.eq_of_mem_replicate h⟩
  · exact absurd h List.not_mem_nil

theorem AllSound.of_mem_grown (h : AllSound pages l) {e : Text × Page}
    (he : e ∈ selected pages block) (hadmitted : l.Admits block e) {x : Lineage}
    (hx : x ∈ l.grown block e) : Sound pages x := by
  obtain ⟨hbrings, rfl⟩ := eq_of_mem_grown hx
  exact h.lineage.concat (hadmitted hbrings) (PageSet.mem_sources_of_mem_select he)

theorem AllSound.replaced (h : AllSound pages l)
    (hnew : l.repetitions block (selected pages block) = .ok new) :
    AllSound pages (l.replaced block new) := by
  obtain ⟨hlineages, hadmitted⟩ := repetitions_eq_ok hnew
  intro x hx
  rcases List.mem_append.mp hx with hx | hx
  · rw [hlineages] at hx
    obtain ⟨e, he, hx⟩ := List.mem_flatMap.mp hx
    rcases List.mem_append.mp hx with hx | hx
    · exact h x (mem_lineages_of_mem_inner (mem_inner_of_mem_kept hx))
    · exact h.of_mem_grown he (hadmitted e he) hx
  · exact h x (List.mem_of_mem_drop hx)

/-! ## Guarded expansions -/

/-- The expansions that lineages guard: the block has a lineage, and at most one page keeps list
starts of the body. -/
structure Guarded (pages : PageSet) (l : Listing) (block : ListBlock) : Prop where
  /-- The block has a lineage. -/
  lineages_ne_nil : l.lineages ≠ []
  /-- At most one page keeps list starts. -/
  countP_keeps_le : (selected pages block).countP (fun e => Keeps block e.2) ≤ 1

theorem kept_eq_nil {e : Text × Page} (h : ¬ Keeps block e.2) : l.kept block e = [] := by
  unfold kept
  split
  · rfl
  · next hbrings =>
    have hzero : ListBlock.countStarts (e.2.fillPage block.body) = 0 := by
      by_contra hpos
      exact h ⟨hbrings, Nat.pos_of_ne_zero hpos⟩
    rw [hzero, List.take_zero]

/-- If at most one page keeps list starts, no lineage of the body is taken over twice. -/
theorem flatMap_kept_sublist {es : List (Text × Page)}
    (h : es.countP (fun e => Keeps block e.2) ≤ 1) :
    (es.flatMap (l.kept block)).Sublist (l.inner block) := by
  induction es with
  | nil => exact List.nil_sublist _
  | cons e es ih =>
    rw [List.countP_cons] at h
    rw [List.flatMap_cons]
    by_cases hkeeps : Keeps block e.2
    · -- the other pages take over nothing
      rw [if_pos (decide_eq_true hkeeps)] at h
      have hzero : es.countP (fun e => Keeps block e.2) = 0 := by omega
      have hnone : es.flatMap (l.kept block) = [] := by
        refine List.flatMap_eq_nil_iff.mpr fun d hd => kept_eq_nil ?_
        simpa using List.countP_eq_zero.mp hzero d hd
      rw [hnone, List.append_nil, kept, if_neg hkeeps.1]
      exact List.take_sublist _ _
    · rw [kept_eq_nil hkeeps, List.nil_append]
      refine ih ?_
      omega

/-- What a lineage lacks to name all pages. -/
def weight (pages : PageSet) (lineage : Lineage) : Nat :=
  pages.size - lineage.length

/-- What the lineages of a listing lack. -/
def weights (pages : PageSet) (l : Listing) : Multiset Nat :=
  (l.lineages : Multiset Lineage).map (weight pages)

theorem weight_grown_lt (h : AllSound pages l) {e : Text × Page}
    (he : e ∈ selected pages block) (hadmitted : l.Admits block e) {x : Lineage}
    (hx : x ∈ l.grown block e) : weight pages x < weight pages l.lineage := by
  have hle := (h.of_mem_grown he hadmitted hx).length_le
  obtain ⟨-, rfl⟩ := eq_of_mem_grown hx
  rw [List.length_append, List.length_singleton] at hle
  rw [weight, weight, List.length_append, List.length_singleton]
  omega

theorem lineages_eq_cons (block : ListBlock) (h : l.lineages ≠ []) :
    l.lineages = l.lineage :: (l.inner block ++ l.outer block) := by
  unfold lineage inner outer
  cases hl : l.lineages with
  | nil => exact absurd hl h
  | cons first rest =>
    rw [Nat.add_comm, List.drop_succ_cons, List.drop_succ_cons, List.drop_zero,
      List.take_append_drop]
    rfl

/-- A guarded expansion replaces the lineage of its block by longer ones, and takes over others at
most once. -/
theorem weights_replaced_lt (h : AllSound pages l) (hguarded : Guarded pages l block)
    (hnew : l.repetitions block (selected pages block) = .ok new) :
    (weights pages (l.replaced block new)).IsDershowitzMannaLT (weights pages l) := by
  obtain ⟨hlineages, hadmitted⟩ := repetitions_eq_ok hnew
  let kepts : List Lineage := (selected pages block).flatMap (l.kept block)
  let growns : List Lineage := (selected pages block).flatMap (l.grown block)
  have hsub : kepts.Sublist (l.inner block) := flatMap_kept_sublist hguarded.countP_keeps_le
  obtain ⟨dropped, hdropped⟩ := hsub.exists_perm_append
  have hswap : ∀ others : List Lineage,
      ((kepts ++ l.outer block) ++ others).Perm ((kepts ++ others) ++ l.outer block) := by
    intro others
    rw [List.append_assoc, List.append_assoc]
    exact List.perm_append_comm.append_left kepts
  -- `kepts` and the lineages behind the block stay, the others change
  have hnext : ((kepts ++ l.outer block) ++ growns).Perm (l.replaced block new).lineages := by
    have hperm : (kepts ++ growns).Perm new.lineages := by
      rw [hlineages]
      exact List.flatMap_append_perm _ (l.kept block) (l.grown block)
    exact (hswap growns).trans (hperm.append_right (l.outer block))
  have hold : ((kepts ++ l.outer block) ++ l.lineage :: dropped).Perm l.lineages := by
    have hperm := (hswap dropped).trans (hdropped.symm.append_right (l.outer block))
    rw [lineages_eq_cons block hguarded.lineages_ne_nil]
    exact List.perm_middle.trans (hperm.cons l.lineage)
  refine ⟨((kepts ++ l.outer block).map (weight pages) : List Nat),
    (growns.map (weight pages) : List Nat), ((l.lineage :: dropped).map (weight pages) : List Nat),
    by simp, ?_, ?_, ?_⟩
  · rw [weights, ← Multiset.coe_eq_coe.mpr hnext]
    simp
  · rw [weights, ← Multiset.coe_eq_coe.mpr hold]
    simp
  · intro w hw
    obtain ⟨x, hx, rfl⟩ := List.mem_map.mp hw
    obtain ⟨e, he, hx⟩ := List.mem_flatMap.mp hx
    have hfirst : weight pages l.lineage ∈ (l.lineage :: dropped).map (weight pages) :=
      List.mem_map_of_mem List.mem_cons_self
    exact ⟨weight pages l.lineage, hfirst, weight_grown_lt h he (hadmitted e he) hx⟩

end Listing

end StaticSite
