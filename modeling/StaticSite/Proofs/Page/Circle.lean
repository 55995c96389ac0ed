import StaticSite.Proofs.Page.Ending

/-!
# Circles of list blocks

The lineages in the table of a text that is being expanded are sound: each names pages of the page
set in their groups, none of them twice. An expansion checks only the pages that bring list starts
into it. That check is exact: `Listing.table` is the table that the expansion would leave without
it, and the expansion goes through with that table if all its lineages are sound, and reports a
circle if one of them is not (`Listing.result_step_of_forall_sound`,
`Listing.result_step_of_not_sound`).
-/

namespace StaticSite

namespace PageSet

theorem mem_sources_iff {pages : PageSet} {group name : Text} :
    (group, name) ∈ sources pages ↔ ∃ page, pages.find? name = some page ∧ page.group = group := by
  constructor
  · intro h
    obtain ⟨e, he, heq⟩ := List.mem_map.mp h
    have hgroup : e.2.group = group := congrArg Prod.fst heq
    have hname : e.1 = name := congrArg Prod.snd heq
    subst hname
    exact ⟨e.2, Dictionary.find?_of_mem_entries he, hgroup⟩
  · rintro ⟨page, hfind, rfl⟩
    have hentry := Dictionary.mem_entries_of_find? hfind
    exact List.mem_map.mpr ⟨(name, page), hentry, rfl⟩

end PageSet

namespace Listing

variable {pages : PageSet} {l : Listing} {block : ListBlock}

/-- The lineages that an expansion of the block would leave if it did not look for circles. -/
def table (pages : PageSet) (l : Listing) (block : ListBlock) : List Lineage :=
  (selected pages block).flatMap (fun e => l.kept block e ++ l.grown block e) ++ l.outer block

/-! ## Repetitions that close no circle -/

theorem exists_repetition {e : Text × Page} (h : l.Admits block e) :
    ∃ one, l.repetition block e.1 e.2 = .ok one := by
  unfold repetition
  dsimp only
  split
  · next hbrings =>
    have hnew : (block.start.group, e.1) ∉ l.lineage := h hbrings
    rw [if_neg hnew]
    exact ⟨_, rfl⟩
  · exact ⟨_, rfl⟩

theorem exists_repetitions {es : List (Text × Page)} (h : ∀ e ∈ es, l.Admits block e) :
    ∃ new, l.repetitions block es = .ok new := by
  induction es with
  | nil => exact ⟨_, rfl⟩
  | cons e es ih =>
    obtain ⟨name, page⟩ := e
    have hfirst := h (name, page) (by simp)
    have hothers := fun d hd => h d (List.mem_cons_of_mem _ hd)
    obtain ⟨one, hone⟩ := exists_repetition hfirst
    obtain ⟨more, hmore⟩ := ih hothers
    rw [repetitions, hone, hmore]
    exact ⟨_, rfl⟩

theorem mem_grown {e : Text × Page} (h : Brings block e.2) :
    l.lineage ++ [(block.start.group, e.1)] ∈ l.grown block e := by
  have hpos : ListBlock.countStarts (e.2.fillPage block.body) ≠ 0 := by
    have : ListBlock.countStarts block.body < ListBlock.countStarts (e.2.fillPage block.body) := h
    omega
  rw [grown, if_pos h]
  simp [List.mem_replicate, hpos]

/-- The lineages that an expansion would leave are sound exactly if each page that brings list
starts is new to the lineage of the block. -/
theorem AllSound.forall_table_iff (h : AllSound pages l) :
    (∀ lineage ∈ l.table pages block, Sound pages lineage) ↔
      ∀ e ∈ selected pages block, l.Admits block e := by
  constructor
  · intro hall e he hbrings hmem
    -- one of the starts that the page brings has the lineage of the block and the page
    have hgrown : l.lineage ++ [(block.start.group, e.1)] ∈ l.table pages block := by
      refine List.mem_append_left _ (List.mem_flatMap.mpr ⟨e, he, ?_⟩)
      exact List.mem_append_right _ (mem_grown hbrings)
    have hnodup := (hall _ hgrown).nodup
    have hdisjoint := (List.nodup_append.mp hnodup).2.2
    exact hdisjoint _ hmem _ (by simp) rfl
  · intro hadmits lineage hlineage
    rcases List.mem_append.mp hlineage with hnew | houter
    · obtain ⟨e, he, hx⟩ := List.mem_flatMap.mp hnew
      rcases List.mem_append.mp hx with hkept | hgrown
      · exact h lineage (mem_lineages_of_mem_inner (mem_inner_of_mem_kept hkept))
      · exact h.of_mem_grown he (hadmits e he) hgrown
    · exact h lineage (List.mem_of_mem_drop houter)

/-! ## The two outcomes of an expansion -/

section Step

variable (h : AllSound pages l) (hfind : ListBlock.find l.text = .ok (some block))

include h hfind

theorem result_step_of_forall_sound (hall : ∀ lineage ∈ l.table pages block, Sound pages lineage) :
    ∃ next, (step pages l).result = .ok (some next) ∧ next.lineages = l.table pages block := by
  have hadmits := h.forall_table_iff.mp hall
  obtain ⟨new, hnew⟩ := exists_repetitions hadmits
  have hlineages := (repetitions_eq_ok hnew).1
  refine ⟨l.replaced block new, ?_, ?_⟩
  · rw [result_step_of_find_some hfind, hnew]
    rfl
  · rw [replaced, table, hlineages]

theorem result_step_of_not_sound (hone : ∃ lineage ∈ l.table pages block, ¬ Sound pages lineage) :
    (step pages l).result = .error (.cyclicList block.start.group) := by
  obtain ⟨lineage, hmem, hbad⟩ := hone
  rw [result_step_of_find_some hfind]
  cases hnew : l.repetitions block (selected pages block) with
  | ok new =>
    have hadmits := (repetitions_eq_ok hnew).2
    have hall := h.forall_table_iff.mpr hadmits
    exact absurd (hall lineage hmem) hbad
  | error e =>
    have he := repetitions_eq_error hnew
    rw [he]
    rfl

end Step

end Listing

/-- At each expansion, no lineage in the table names a page twice, and those it names are pages of
the page set in their groups, so it is no longer than the page set. An expansion that would leave
another kind of lineage ends in a circle, and all others leave the table that they would. -/
theorem lineages_simple (pages : PageSet) (t : Text) {n : Nat} {l : Listing}
    (hrun : Listing.run pages n (Listing.ofText t) = some l) :
    (∀ lineage ∈ l.lineages, lineage.Nodup ∧ lineage.length ≤ pages.size ∧
        ∀ group name, (group, name) ∈ lineage →
          ∃ page, pages.find? name = some page ∧ page.group = group) ∧
      ∀ block, ListBlock.find l.text = .ok (some block) →
        ((∀ lineage ∈ l.table pages block, Listing.Sound pages lineage) →
          ∃ next, Listing.next? pages l = some next ∧ next.lineages = l.table pages block) ∧
        ((∃ lineage ∈ l.table pages block, ¬ Listing.Sound pages lineage) →
          ∀ m ≥ n, (expandLists m pages t).result = .error (.cyclicList block.start.group)) := by
  have hsound := (Listing.allSound_ofText pages t).of_run hrun
  refine ⟨?_, fun block hfind => ⟨?_, ?_⟩⟩
  · intro lineage hmem
    have hone := hsound lineage hmem
    refine ⟨hone.nodup, hone.length_le, fun group name hpair => ?_⟩
    exact PageSet.mem_sources_iff.mp (hone.subset hpair)
  · intro hall
    obtain ⟨next, hstep, hlineages⟩ := Listing.result_step_of_forall_sound hsound hfind hall
    exact ⟨next, Listing.next?_eq_some_iff.mpr hstep, hlineages⟩
  · intro hone m hm
    have hstep := Listing.result_step_of_not_sound hsound hfind hone
    obtain ⟨k, rfl⟩ := Nat.exists_eq_add_of_le hm
    have hrest := Listing.result_expandWithin_of_run hrun k
    exact hrest.trans (Listing.result_expandWithin_of_error hstep k)

/-- A page whose title lists its own group and asks for the title again. -/
theorem lineages_simple_self_listing :
    let page : Page :=
      { group := "g".toList, title := "#{list:g:1}#{post-title}#{list:end}".toList }
    let pages : PageSet := .ofList [("a".toList, page)]
    let l : Listing := ⟨page.title ++ blockSeparator, [[("g".toList, "a".toList)]]⟩
    Listing.run pages 1 (Listing.ofText page.title) = some l ∧
      (∀ lineage ∈ l.lineages, lineage.Nodup ∧ lineage.length ≤ pages.size ∧
        ∀ group name, (group, name) ∈ lineage →
          ∃ page, pages.find? name = some page ∧ page.group = group) ∧
      ∀ m ≥ 1, (expandLists m pages page.title).result = .error (.cyclicList "g".toList) := by
  intro page pages l
  let first : ListBlock := ⟨[], ⟨"g".toList, 1⟩, "#{post-title}".toList, []⟩
  let second : ListBlock := ⟨[], ⟨"g".toList, 1⟩, "#{post-title}".toList, blockSeparator⟩
  have hselect : PageSet.select pages "g".toList 1 = [("a".toList, page)] := by
    have hgroup : PageSet.ofGroup pages "g".toList = [("a".toList, page)] := by rfl
    rw [PageSet.select, PageSet.mostRecent, hgroup, List.mergeSort_singleton]
    rfl
  have hfirst : Listing.selected pages first = [("a".toList, page)] := hselect
  have hsecond : Listing.selected pages second = [("a".toList, page)] := hselect
  have hrun : Listing.run pages 1 (Listing.ofText page.title) = some l := by
    have hfind : ListBlock.find (Listing.ofText page.title).text = .ok (some first) := by decide
    have hnew : (Listing.ofText page.title).repetitions first (Listing.selected pages first) =
        .ok ⟨page.title ++ blockSeparator, [[("g".toList, "a".toList)]]⟩ := by
      rw [hfirst]
      decide
    have hnext : Listing.next? pages (Listing.ofText page.title) = some l :=
      Listing.next?_eq_some_iff.mpr
        (Listing.result_step_eq_some_iff.mpr ⟨first, _, hfind, hnew, by decide⟩)
    rw [Listing.run, hnext]
    rfl
  have hfind : ListBlock.find l.text = .ok (some second) := by decide
  have htable : [("g".toList, "a".toList), ("g".toList, "a".toList)] ∈ l.table pages second := by
    rw [Listing.table, hsecond]
    decide
  have hone : ∃ lineage ∈ l.table pages second, ¬ Listing.Sound pages lineage :=
    ⟨_, htable, fun hsound => absurd hsound.nodup (by decide)⟩
  obtain ⟨hsimple, hblock⟩ := lineages_simple pages page.title hrun
  exact ⟨hrun, hsimple, (hblock second hfind).2 hone⟩

end StaticSite
