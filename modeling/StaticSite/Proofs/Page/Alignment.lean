import StaticSite.Proofs.Page.Ending
import StaticSite.Proofs.Placeholder.Seam

/-!
# Lineages in line with the list starts

The table of lineages is meant to have one entry for each list start of the text, in the order of
the text, so that the first entry is the lineage of the block that is expanded next (`Aligned`). An
expansion counts the list starts of each repetition and of the text behind the block, each on its
own. The separators keep these apart, so the count is right unless the text before the block joins a
list start with what comes to stand behind it (`Aligned.replaced_iff`).

Joining is possible: a number sign before the block and a value that begins with an opening brace
make a list start that has no entry. So the table stays in line with the text if and only if no
expansion joins a list start (`lineages_aligned_iff`); if text and values are well-formed, none does.
-/

namespace StaticSite

namespace Listing

variable {pages : PageSet} {l new : Listing} {block : ListBlock}

/-- There is one lineage for each list start of the text. -/
def Aligned (l : Listing) : Prop :=
  l.lineages.length = ListBlock.countStarts l.text

instance (l : Listing) : Decidable (Aligned l) :=
  inferInstanceAs (Decidable (_ = _))

theorem aligned_ofText (t : Text) : Aligned (ofText t) :=
  List.length_replicate

/-! ## The parts of the table -/

section Parts

variable (h : Aligned l) (hfind : ListBlock.find l.text = .ok (some block))

include h hfind

theorem Aligned.length_eq :
    l.lineages.length =
      1 + ListBlock.countStarts block.body + ListBlock.countStarts block.after :=
  Eq.trans h (ListBlock.countStarts_of_find hfind)

theorem Aligned.length_inner : (l.inner block).length = ListBlock.countStarts block.body := by
  have hlength := h.length_eq hfind
  rw [inner, List.length_take, List.length_drop]
  omega

theorem Aligned.length_outer : (l.outer block).length = ListBlock.countStarts block.after := by
  have hlength := h.length_eq hfind
  rw [outer, List.length_drop]
  omega

/-- The first lineage is that of the first block; those of its body follow, and then the others. -/
theorem Aligned.lineages_eq : l.lineages = l.lineage :: (l.inner block ++ l.outer block) := by
  have hlength := h.length_eq hfind
  refine lineages_eq_cons block fun hnil => ?_
  rw [hnil, List.length_nil] at hlength
  omega

end Parts

/-! ## One expansion -/

/-- A separator begins with a line break and has no sigils. -/
theorem countStarts_append_separator (s t : Text) :
    ListBlock.countStarts (s ++ (blockSeparator ++ t)) =
      ListBlock.countStarts s + ListBlock.countStarts t := by
  have hbreak : blockSeparator = '\n' :: "<!-- expanded block div -->\n".toList := rfl
  have hseam : ¬ JoinsStart s (blockSeparator ++ t) := by
    rw [hbreak]
    exact not_joinsStart_cons (.inr rfl) s _
  rw [countStarts_append hseam, countStarts_append_plain (by decide : SigilFree blockSeparator)]

/-- A repetition gets as many lineages as it has list starts. -/
theorem length_kept_append_grown
    (hinner : (l.inner block).length = ListBlock.countStarts block.body) (e : Text × Page) :
    (l.kept block e ++ l.grown block e).length =
      ListBlock.countStarts (e.2.fillPage block.body) := by
  by_cases hbrings : Brings block e.2
  · rw [kept, grown, if_pos hbrings, if_pos hbrings, List.nil_append, List.length_replicate]
  · have hle : ListBlock.countStarts (e.2.fillPage block.body) ≤
        ListBlock.countStarts block.body := Nat.le_of_not_lt hbrings
    rw [kept, grown, if_neg hbrings, if_neg hbrings, List.append_nil, List.length_take, hinner]
    omega

/-- The repetitions have as many lineages as list starts, also with a text behind them. -/
theorem countStarts_repetitions
    (hinner : (l.inner block).length = ListBlock.countStarts block.body)
    {es : List (Text × Page)} (hnew : l.repetitions block es = .ok new) (t : Text) :
    ListBlock.countStarts (new.text ++ t) = new.lineages.length + ListBlock.countStarts t := by
  rw [text_of_repetitions hnew, (repetitions_eq_ok hnew).1]
  clear hnew
  induction es with
  | nil => exact (Nat.zero_add _).symm
  | cons e es ih =>
    rw [List.flatMap_cons, List.append_assoc, List.append_assoc, countStarts_append_separator, ih,
      List.flatMap_cons, List.length_append, length_kept_append_grown hinner, Nat.add_assoc]

/-- The step lemma: an expansion keeps the table in line with the text exactly if the text before
the block joins no list start with what comes to stand behind it. -/
theorem Aligned.replaced_iff (h : Aligned l) (hfind : ListBlock.find l.text = .ok (some block))
    {es : List (Text × Page)} (hnew : l.repetitions block es = .ok new) :
    Aligned (l.replaced block new) ↔ ¬ JoinsStart block.before (new.text ++ block.after) := by
  have hbefore : ListBlock.countStarts block.before = 0 :=
    countStarts_eq_zero_iff.mpr (ListBlock.startFree_before hfind)
  have hlineages : (l.replaced block new).lineages.length =
      ListBlock.countStarts block.before + ListBlock.countStarts (new.text ++ block.after) := by
    rw [replaced, List.length_append, h.length_outer hfind,
      countStarts_repetitions (h.length_inner hfind) hnew, hbefore, Nat.zero_add]
  rw [← countStarts_append_eq_iff, Aligned, hlineages, replaced, List.append_assoc]
  exact eq_comm

/-! ## The run -/

/-- Expansions keep a text well-formed if the values of the pages are. -/
theorem wellFormed_of_run (hpages : ∀ e ∈ pages.entries, ∀ value ∈ e.2.values, WellFormed value)
    {n : Nat} {last : Listing} (hrun : run pages n l = some last) (hl : WellFormed l.text) :
    WellFormed last.text := by
  have hvalues : ∀ e ∈ pages.entries, ∀ value ∈ e.2.values,
      WellFormedWith (fun _ => True) value :=
    fun e he value hvalue => ⟨hpages e he value hvalue, fun _ _ => trivial⟩
  refine run_preserves (P := fun l => WellFormed l.text) (fun l next hl hnext => ?_) hrun hl
  have hwf : WellFormedWith (fun _ => True) l.text := ⟨hl, fun _ _ => trivial⟩
  exact (wellFormedWith_of_step hvalues (next?_eq_some_iff.mp hnext) hwf).wellFormed

/-- At the beginning of each expansion, the table of lineages is in line with the text. -/
def AlwaysAligned (pages : PageSet) (t : Text) : Prop :=
  ∀ n l, run pages n (ofText t) = some l → Aligned l

/-- No expansion joins a list start out of the text before the block and what comes to stand behind
it. -/
def NeverJoins (pages : PageSet) (t : Text) : Prop :=
  ∀ n l block new, run pages n (ofText t) = some l → ListBlock.find l.text = .ok (some block) →
    l.repetitions block (selected pages block) = .ok new →
    ¬ JoinsStart block.before (new.text ++ block.after)

theorem neverJoins_of_alwaysAligned {t : Text} (h : AlwaysAligned pages t) :
    NeverJoins pages t := by
  intro n l block new hrun hfind hnew
  have hnext : next? pages l = some (l.replaced block new) :=
    next?_eq_some_iff.mpr (result_step_eq_some_iff.mpr ⟨block, new, hfind, hnew, rfl⟩)
  have haligned := h (n + 1) _ (run_succ_eq_some_iff.mpr ⟨l, hrun, hnext⟩)
  exact ((h n l hrun).replaced_iff hfind hnew).mp haligned

theorem alwaysAligned_of_neverJoins {t : Text} (h : NeverJoins pages t) :
    AlwaysAligned pages t := by
  intro n
  induction n with
  | zero =>
    intro l hrun
    cases hrun
    exact aligned_ofText t
  | succ n ih =>
    intro last hrun
    obtain ⟨l, hl, hnext⟩ := run_succ_eq_some_iff.mp hrun
    obtain ⟨block, new, hfind, hnew, rfl⟩ :=
      result_step_eq_some_iff.mp (next?_eq_some_iff.mp hnext)
    exact ((ih l hl).replaced_iff hfind hnew).mpr (h n l block new hl hfind hnew)

/-- In a well-formed text no placeholder reaches from before the block into what stands behind. -/
theorem neverJoins_of_wellFormed {t : Text} (ht : WellFormed t)
    (hpages : ∀ e ∈ pages.entries, ∀ value ∈ e.2.values, WellFormed value) :
    NeverJoins pages t := by
  intro n l block new hrun hfind _
  have hwf : WellFormedWith (fun _ => True) l.text :=
    ⟨wellFormed_of_run hpages hrun ht, fun _ _ => trivial⟩
  exact (wellFormedWith_of_find hfind hwf).1.wellFormed.closed.not_joinsStart _

end Listing

/-- The table of lineages is in line with the text at the beginning of each expansion, and its first
entry then belongs to the block that is expanded, if and only if no expansion joins a list start;
and none does if text and values are well-formed. -/
theorem lineages_aligned_iff (pages : PageSet) (t : Text) :
    (Listing.AlwaysAligned pages t ↔ Listing.NeverJoins pages t) ∧
      (WellFormed t → (∀ e ∈ pages.entries, ∀ value ∈ e.2.values, WellFormed value) →
        Listing.AlwaysAligned pages t) ∧
      ∀ (l : Listing) (block : ListBlock), l.Aligned → ListBlock.find l.text = .ok (some block) →
        l.lineages = l.lineage :: (l.inner block ++ l.outer block) ∧
          (l.inner block).length = ListBlock.countStarts block.body ∧
          (l.outer block).length = ListBlock.countStarts block.after := by
  refine ⟨⟨Listing.neverJoins_of_alwaysAligned, Listing.alwaysAligned_of_neverJoins⟩, ?_, ?_⟩
  · intro ht hpages
    exact Listing.alwaysAligned_of_neverJoins (Listing.neverJoins_of_wellFormed ht hpages)
  · intro l block haligned hfind
    exact ⟨haligned.lineages_eq hfind, haligned.length_inner hfind, haligned.length_outer hfind⟩

/-- A well-formed template, and a page that brings a block for another group. -/
theorem lineages_aligned_iff_posts :
    let pages : PageSet := .ofList
      [("a".toList, { group := "g".toList, title := "#{list:h:1}#{post-date}#{list:end}".toList }),
        ("b".toList, { group := "h".toList, date := "$ 1".toList })]
    let t : Text := "#{list:g:2}#{post-title}#{list:end}".toList
    WellFormed t ∧ (∀ e ∈ pages.entries, ∀ value ∈ e.2.values, WellFormed value) ∧
      Listing.AlwaysAligned pages t := by
  intro pages t
  have ht : WellFormed t := by decide
  have hpages : ∀ e ∈ pages.entries, ∀ value ∈ e.2.values, WellFormed value := by decide
  exact ⟨ht, hpages, (lineages_aligned_iff pages t).2.1 ht hpages⟩

/-- A number sign of the template and a title that begins with an opening brace make a list start
without a lineage. -/
theorem not_alwaysAligned_joined :
    ¬ Listing.AlwaysAligned
      (.ofList
        [("a".toList,
          { group := "g".toList, date := "#{list:h:1}y#{list:end}".toList,
            title := "{list:g:1}#{post-date}#{list:end}".toList })])
      "##{list:g:1}#{post-title}#{list:end}".toList := by
  intro haligned
  let page : Page :=
    { group := "g".toList, date := "#{list:h:1}y#{list:end}".toList,
      title := "{list:g:1}#{post-date}#{list:end}".toList }
  let pages : PageSet := .ofList [("a".toList, page)]
  let l := Listing.ofText "##{list:g:1}#{post-title}#{list:end}".toList
  let block : ListBlock :=
    ⟨"#".toList, ⟨"g".toList, 1⟩, "#{post-title}".toList, []⟩
  let new : Listing := ⟨page.title ++ blockSeparator ++ [], []⟩
  have hselected : Listing.selected pages block = [("a".toList, page)] := by
    have hgroup : PageSet.ofGroup pages "g".toList = [("a".toList, page)] := by rfl
    show PageSet.select pages "g".toList 1 = _
    rw [PageSet.select, PageSet.mostRecent, hgroup, List.mergeSort_singleton]
    rfl
  have hfind : ListBlock.find l.text = .ok (some block) := by decide
  have hnew : l.repetitions block (Listing.selected pages block) = .ok new := by
    rw [hselected]
    decide
  have hnext : Listing.next? pages l = some (l.replaced block new) :=
    Listing.next?_eq_some_iff.mpr
      (Listing.result_step_eq_some_iff.mpr ⟨block, new, hfind, hnew, rfl⟩)
  have hjoined := haligned 1 _ (Listing.run_succ_eq_some_iff.mpr ⟨l, rfl, hnext⟩)
  exact absurd hjoined (by decide)

end StaticSite
