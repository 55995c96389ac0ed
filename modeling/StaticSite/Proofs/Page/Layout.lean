import StaticSite.Proofs.Page.Listing

/-!
# Blocks side by side

The loop that expands blocks looks for the first list start and the first list end of the whole text
again after each expansion. For a text that is laid out as blocks side by side, with well-formed
parts and values that bring no list macros, this is the same as expanding each block on its own
(`result_expandLists_layOut`): the repetitions of a block join the text before the next one, and
what is left has one block less.
-/

namespace StaticSite

/-- A list block as it is written, with the text behind it. -/
structure WrittenBlock where
  /-- The list start. -/
  opening : Placeholder
  /-- The group and the count of the list start. -/
  start : Placeholder.ListStart
  /-- The list start reads as this group and count. -/
  listStart?_opening : opening.listStart? = some start
  /-- The text between the list start and the list end. -/
  body : Text
  /-- The text behind the list end. -/
  after : Text

namespace WrittenBlock

/-- A block with the text behind it. -/
def text (b : WrittenBlock) : Text :=
  b.opening.raw ++ (b.body ++ (listEnd.raw ++ b.after))

/-- The repetitions of a block: its body with the values of each page that it selects, and a
separator behind each. -/
def repeated (pages : PageSet) (b : WrittenBlock) : Text :=
  (PageSet.select pages b.start.group b.start.count).flatMap fun e =>
    e.2.fillPage b.body ++ blockSeparator

end WrittenBlock

/-- A text that is written as blocks side by side. -/
def layOut (head : Text) (blocks : List WrittenBlock) : Text :=
  head ++ blocks.flatMap WrittenBlock.text

/-- A well-formed text without list starts and list ends. -/
abbrev ListFree (t : Text) : Prop :=
  WellFormedWith (fun q => q.listStart? = none ∧ q.isListEnd = false) t

theorem ListFree.startFree {t : Text} (h : ListFree t) : StartFree t :=
  fun q hq => (h.forall_placeholders q hq).1

theorem ListFree.endFree {t : Text} (h : ListFree t) : EndFree t :=
  fun q hq => (h.forall_placeholders q hq).2

theorem listFree_blockSeparator : ListFree blockSeparator :=
  .of_plain (by decide)

theorem WrittenBlock.listFree_repeated {pages : PageSet} {b : WrittenBlock}
    (hpages : ∀ e ∈ pages.entries, ∀ value ∈ e.2.values, ListFree value)
    (hbody : ListFree b.body) : ListFree (b.repeated pages) := by
  refine .flatMap fun e he => ?_
  have hfilled := Page.wellFormedWith_fillPage (hpages e (PageSet.mem_select he).1) hbody
  exact hfilled.append listFree_blockSeparator

namespace Listing

/-- Repetitions without list starts close no circle and have no lineages. -/
theorem repetitions_of_startFree {l : Listing} {block : ListBlock} {es : List (Text × Page)}
    (h : ∀ e ∈ es, StartFree (e.2.fillPage block.body)) :
    l.repetitions block es =
      .ok ⟨es.flatMap fun e => e.2.fillPage block.body ++ blockSeparator, []⟩ := by
  induction es with
  | nil => rfl
  | cons e es ih =>
    obtain ⟨name, page⟩ := e
    have hzero : ListBlock.countStarts (page.fillPage block.body) = 0 :=
      countStarts_eq_zero_iff.mpr (h (name, page) List.mem_cons_self)
    have hone : l.repetition block name page =
        .ok ⟨page.fillPage block.body ++ blockSeparator, []⟩ := by
      unfold repetition
      simp only [hzero, Nat.not_lt_zero, if_false, List.take_zero]
    rw [repetitions, hone, ih fun d hd => h d (List.mem_cons_of_mem _ hd)]
    rfl

/-- The first of the blocks is expanded, and its repetitions join the text before the next one. -/
theorem result_step_layOut {pages : PageSet}
    (hpages : ∀ e ∈ pages.entries, ∀ value ∈ e.2.values, ListFree value) {head : Text}
    {b : WrittenBlock} (blocks : List WrittenBlock) (hhead : ListFree head)
    (hbody : ListFree b.body) (lineages : List Lineage) :
    ∃ lineages', (step pages ⟨layOut head (b :: blocks), lineages⟩).result =
      .ok (some ⟨layOut (head ++ (b.repeated pages ++ b.after)) blocks, lineages'⟩) := by
  have htext : layOut head (b :: blocks) =
      head ++ (b.opening.raw ++ (b.body ++ (listEnd.raw ++
        (b.after ++ blocks.flatMap WrittenBlock.text)))) := by
    simp [layOut, WrittenBlock.text]
  have hfind := ListBlock.find_append b.listStart?_opening hhead.startFree hhead.endFree
    hbody.endFree (b.after ++ blocks.flatMap WrittenBlock.text)
  rw [← htext] at hfind
  have hfree : ∀ e ∈ PageSet.select pages b.start.group b.start.count,
      StartFree (e.2.fillPage b.body) := by
    intro e he
    exact ListFree.startFree
      (Page.wellFormedWith_fillPage (hpages e (PageSet.mem_select he).1) hbody)
  -- Whatever the lineages, the repetitions add none: they have no list start.
  let l : Listing := ⟨layOut head (b :: blocks), lineages⟩
  let block : ListBlock :=
    ⟨head, b.start, b.body, b.after ++ blocks.flatMap WrittenBlock.text⟩
  have hnew : l.repetitions block (selected pages block) = .ok ⟨b.repeated pages, []⟩ :=
    repetitions_of_startFree hfree
  refine ⟨[] ++ l.outer block, result_step_eq_some_iff.mpr ⟨block, _, hfind, hnew, ?_⟩⟩
  show (_ : Listing) = ⟨head ++ b.repeated pages ++ (b.after ++ _), [] ++ l.outer block⟩
  simp only [layOut, List.append_assoc]

/-- Whatever the lineages are, blocks side by side are expanded one after the other. -/
theorem result_expandWithin_layOut {pages : PageSet}
    (hpages : ∀ e ∈ pages.entries, ∀ value ∈ e.2.values, ListFree value) {head : Text}
    {blocks : List WrittenBlock} (hhead : ListFree head)
    (hblocks : ∀ b ∈ blocks, ListFree b.body ∧ ListFree b.after) {expansions : Nat}
    (hexpansions : blocks.length ≤ expansions) (lineages : List Lineage) :
    (expandWithin pages expansions ⟨layOut head blocks, lineages⟩).result =
      .ok (head ++ blocks.flatMap fun b => b.repeated pages ++ b.after) := by
  induction blocks generalizing head expansions lineages with
  | nil =>
    have htext : layOut head [] = head := List.append_nil head
    have hnone := ListBlock.find_of_startFree hhead.startFree
    rw [← htext] at hnone
    exact result_expandWithin_of_none (result_step_of_find_none hnone) expansions
  | cons b blocks ih =>
    obtain ⟨hbody, hafter⟩ := hblocks b List.mem_cons_self
    obtain ⟨lineages', hstep⟩ := result_step_layOut hpages blocks hhead hbody lineages
    cases expansions with
    | zero => exact absurd hexpansions (by simp)
    | succ expansions =>
      rw [result_expandWithin_succ hstep]
      have hjoined := hhead.append ((b.listFree_repeated hpages hbody).append hafter)
      rw [ih hjoined (fun c hc => hblocks c (List.mem_cons_of_mem _ hc))
        (Nat.le_of_succ_le_succ hexpansions)]
      simp only [List.flatMap_cons, List.append_assoc]

end Listing

/-- Expanding blocks side by side one after the other is expanding each of them on its own. -/
theorem result_expandLists_layOut {pages : PageSet}
    (hpages : ∀ e ∈ pages.entries, ∀ value ∈ e.2.values, ListFree value) {head : Text}
    {blocks : List WrittenBlock} (hhead : ListFree head)
    (hblocks : ∀ b ∈ blocks, ListFree b.body ∧ ListFree b.after) {expansions : Nat}
    (hexpansions : blocks.length ≤ expansions) :
    (expandLists expansions pages (layOut head blocks)).result =
      .ok (head ++ blocks.flatMap fun b => b.repeated pages ++ b.after) :=
  Listing.result_expandWithin_layOut hpages hhead hblocks hexpansions _

/-- Two blocks for one group, and pages whose titles hold further placeholders. -/
theorem result_expandLists_layOut_posts :
    let pages : PageSet := .ofList
      [("a".toList, { group := "g".toList, date := "1".toList, title := "@{x}".toList }),
        ("b".toList, { group := "g".toList, date := "2".toList, title := "#{post-date}".toList })]
    let long : WrittenBlock :=
      ⟨⟨.post, "list:g:2".toList⟩, ⟨"g".toList, 2⟩, by decide, "#{post-title}".toList, " - ".toList⟩
    let short : WrittenBlock :=
      ⟨⟨.post, "list:g:1".toList⟩, ⟨"g".toList, 1⟩, by decide, "${t}".toList, "@{y}".toList⟩
    (expandLists 2 pages (layOut "$ ".toList [long, short])).result =
      .ok ("$ ".toList ++ [long, short].flatMap fun b => b.repeated pages ++ b.after) := by
  intro pages long short
  exact result_expandLists_layOut (by decide) (by decide) (by decide) (by decide)

end StaticSite
