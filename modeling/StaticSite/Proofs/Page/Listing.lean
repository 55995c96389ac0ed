import StaticSite.Page.Listing
import StaticSite.Proofs.Page.Fill

/-!
# What one expansion does

The result of a step as one equation, and how the answer of `expandWithin` follows from it. An
expansion succeeds exactly when the text has a first block whose repetitions close no circle
(`result_step_eq_some_iff`).
-/

namespace StaticSite

/-- A block selects pages of the page set that are in its group. -/
theorem PageSet.mem_select {pages : PageSet} {group : Text} {count : Nat} {e : Text × Page}
    (h : e ∈ select pages group count) : e ∈ pages.entries ∧ e.2.group = group := by
  have hrecent : e ∈ mostRecent pages group := List.mem_of_mem_take h
  obtain ⟨hentry, hgroup⟩ := List.mem_filter.mp (List.mem_mergeSort.mp hrecent)
  exact ⟨hentry, of_decide_eq_true hgroup⟩

namespace Listing

variable {pages : PageSet} {l next : Listing}

/-! ## One expansion -/

/-- The listing with its first block replaced by given repetitions. -/
def replaced (l : Listing) (block : ListBlock) (new : Listing) : Listing :=
  ⟨block.before ++ new.text ++ block.after, new.lineages ++ l.outer block⟩

/-- The pages that a block is repeated for. -/
def selected (pages : PageSet) (block : ListBlock) : List (Text × Page) :=
  PageSet.select pages block.start.group block.start.count

theorem result_step_of_find_error {e : BuildError} (h : ListBlock.find l.text = .error e) :
    (step pages l).result = .error e := by
  unfold step
  rw [h]
  rfl

theorem result_step_of_find_none (h : ListBlock.find l.text = .ok none) :
    (step pages l).result = .ok none := by
  unfold step
  rw [h]
  rfl

theorem result_step_of_find_some {block : ListBlock}
    (h : ListBlock.find l.text = .ok (some block)) :
    (step pages l).result =
      (l.repetitions block (selected pages block)).map fun new => some (l.replaced block new) := by
  unfold step
  rw [h]
  simp only [Outcome.result_andThen, expandBlock]
  rw [selected]
  cases l.repetitions block (PageSet.select pages block.start.group block.start.count) <;> rfl

theorem result_step_eq_some_iff :
    (step pages l).result = .ok (some next) ↔
      ∃ block new, ListBlock.find l.text = .ok (some block) ∧
        l.repetitions block (selected pages block) = .ok new ∧ next = l.replaced block new := by
  constructor
  · intro h
    cases hfind : ListBlock.find l.text with
    | error e =>
      rw [result_step_of_find_error hfind] at h
      cases h
    | ok found =>
      cases found with
      | none =>
        rw [result_step_of_find_none hfind] at h
        cases h
      | some block =>
        rw [result_step_of_find_some hfind] at h
        cases hnew : l.repetitions block (selected pages block) with
        | error e =>
          rw [hnew] at h
          cases h
        | ok new =>
          rw [hnew] at h
          cases h
          exact ⟨block, new, rfl, hnew, rfl⟩
  · rintro ⟨block, new, hfind, hnew, rfl⟩
    rw [result_step_of_find_some hfind, hnew]
    rfl

/-! ## The loop -/

theorem result_expandWithin_of_error {e : BuildError} (h : (step pages l).result = .error e)
    (n : Nat) : (expandWithin pages n l).result = .error e := by
  cases n with
  | zero =>
    rw [expandWithin, Outcome.result_andThen, h]
    rfl
  | succ n =>
    rw [expandWithin, Outcome.result_andThen, h]
    rfl

theorem result_expandWithin_of_none (h : (step pages l).result = .ok none) (n : Nat) :
    (expandWithin pages n l).result = .ok l.text := by
  cases n with
  | zero =>
    rw [expandWithin, Outcome.result_andThen, h]
    rfl
  | succ n =>
    rw [expandWithin, Outcome.result_andThen, h]
    rfl

theorem result_expandWithin_zero (h : (step pages l).result = .ok (some next)) :
    (expandWithin pages 0 l).result = .error .tooManyExpansions := by
  rw [expandWithin, Outcome.result_andThen, h]
  rfl

theorem result_expandWithin_succ (h : (step pages l).result = .ok (some next)) (n : Nat) :
    (expandWithin pages (n + 1) l).result = (expandWithin pages n next).result := by
  rw [expandWithin, Outcome.result_andThen, h]
  rfl

/-! ## What expansions bring into a text -/

section Values

variable {Q : Placeholder → Prop} {block : ListBlock} {new : Listing}

theorem text_of_repetition {name : Text} {page : Page} {one : Listing}
    (h : l.repetition block name page = .ok one) :
    one.text = page.fillPage block.body ++ blockSeparator := by
  unfold repetition at h
  dsimp only at h
  split at h
  · split at h <;> cases h
    rfl
  · cases h
    rfl

theorem text_of_repetitions {es : List (Text × Page)} (h : l.repetitions block es = .ok new) :
    new.text = es.flatMap fun e => e.2.fillPage block.body ++ blockSeparator := by
  induction es generalizing new with
  | nil =>
    cases h
    rfl
  | cons e es ih =>
    obtain ⟨name, page⟩ := e
    rw [repetitions] at h
    cases hone : l.repetition block name page with
    | error e =>
      rw [hone] at h
      cases h
    | ok one =>
      cases hmore : l.repetitions block es with
      | error e =>
        rw [hone, hmore] at h
        cases h
      | ok more =>
        rw [hone, hmore] at h
        cases h
        rw [List.flatMap_cons, ← ih hmore, ← text_of_repetition hone]

/-- The parts of a text around its first block hold some of the placeholders of the text. -/
theorem wellFormedWith_of_find {t : Text} (h : ListBlock.find t = .ok (some block))
    (ht : WellFormedWith Q t) :
    WellFormedWith Q block.before ∧ WellFormedWith Q block.body ∧
      WellFormedWith Q block.after := by
  obtain ⟨opening, hopening, hsplit⟩ := ListBlock.exists_of_find h
  have hplain := Placeholder.plain_of_listStart? hopening
  rw [hsplit] at ht
  obtain ⟨hbefore, hrest⟩ := ht.wellFormed.of_append_raw
  obtain ⟨hbody, hafter⟩ := hrest.of_append_raw
  have hall := ht.forall_placeholders
  rw [hbefore.placeholders_append, placeholders_raw_append hplain, hbody.placeholders_append,
    placeholders_raw_append Placeholder.plain_listEnd] at hall
  refine ⟨⟨hbefore, fun q hq => hall q ?_⟩, ⟨hbody, fun q hq => hall q ?_⟩,
    ⟨hafter, fun q hq => hall q ?_⟩⟩
  · simp [hq]
  · simp [hq]
  · simp [hq]

/-- The step lemma: an expansion brings no placeholders into a text but those of the pages'
values. -/
theorem wellFormedWith_of_step
    (hpages : ∀ e ∈ pages.entries, ∀ value ∈ e.2.values, WellFormedWith Q value)
    (hstep : (step pages l).result = .ok (some next)) (hl : WellFormedWith Q l.text) :
    WellFormedWith Q next.text := by
  obtain ⟨block, new, hfind, hnew, rfl⟩ := result_step_eq_some_iff.mp hstep
  obtain ⟨hbefore, hbody, hafter⟩ := wellFormedWith_of_find hfind hl
  have hnewText : WellFormedWith Q new.text := by
    rw [text_of_repetitions hnew]
    refine .flatMap fun e he => ?_
    have hvalues := hpages e (PageSet.mem_select he).1
    have hseparator : WellFormedWith Q blockSeparator := .of_plain (by decide)
    exact (Page.wellFormedWith_fillPage hvalues hbody).append hseparator
  exact (hbefore.append hnewText).append hafter

/-- The run lemma: expanding all blocks brings no other placeholders into a text either. -/
theorem wellFormedWith_of_expandWithin
    (hpages : ∀ e ∈ pages.entries, ∀ value ∈ e.2.values, WellFormedWith Q value) {n : Nat}
    {t : Text} (h : (expandWithin pages n l).result = .ok t) (hl : WellFormedWith Q l.text) :
    WellFormedWith Q t := by
  induction n generalizing l with
  | zero =>
    cases hstep : (step pages l).result with
    | error e =>
      rw [result_expandWithin_of_error hstep] at h
      cases h
    | ok found =>
      cases found with
      | none =>
        rw [result_expandWithin_of_none hstep] at h
        cases h
        exact hl
      | some next =>
        rw [result_expandWithin_zero hstep] at h
        cases h
  | succ n ih =>
    cases hstep : (step pages l).result with
    | error e =>
      rw [result_expandWithin_of_error hstep] at h
      cases h
    | ok found =>
      cases found with
      | none =>
        rw [result_expandWithin_of_none hstep] at h
        cases h
        exact hl
      | some next =>
        rw [result_expandWithin_succ hstep] at h
        exact ih h (wellFormedWith_of_step hpages hstep hl)

end Values

end Listing

end StaticSite
