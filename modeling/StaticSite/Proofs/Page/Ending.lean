import StaticSite.Proofs.Page.Layout
import StaticSite.Proofs.Page.Lineage

/-!
# When expanding list blocks ends

The listings that come up while blocks are expanded are a `run`: each one is the step from the one
before. If the run ends, the answer is the one of its last listing, and no number of expansions that
is large enough gives another one: a text without list starts, or the error of a text without a
first block or of a circle (`ListAnswer`).

A run need not end. It does exactly if all its expansions from some listing on are guarded
(`endsInListAnswer_iff`): the ones that lineages do not guard are the blocks that came together from
the values of several pages, which have no lineage, and the blocks whose nested blocks several pages
repeat.
-/

namespace StaticSite

/-- What expanding all list blocks of a text may answer. -/
inductive ListAnswer : Except BuildError Text → Prop
  /-- No list start is left. -/
  | expanded {t : Text} (h : StartFree t) : ListAnswer (.ok t)
  /-- A block is not closed. -/
  | missingListEnd (group : Text) : ListAnswer (.error (.missingListEnd group))
  /-- A list end comes too early. -/
  | listEndBeforeStart (group : Text) : ListAnswer (.error (.listEndBeforeStart group))
  /-- A block brings itself back. -/
  | cyclicList (group : Text) : ListAnswer (.error (.cyclicList group))

namespace Listing

variable {pages : PageSet} {l next : Listing}

/-- The listing after one expansion, if there is one. -/
def next? (pages : PageSet) (l : Listing) : Option Listing :=
  match (step pages l).result with
  | .ok next => next
  | .error _ => none

/-- The listing after some expansions, if there are as many. -/
def run (pages : PageSet) : Nat → Listing → Option Listing
  | 0, l => some l
  | n + 1, l => (next? pages l).bind (run pages n)

theorem run_add (m n : Nat) (l : Listing) :
    run pages (m + n) l = (run pages m l).bind (run pages n) := by
  induction m generalizing l with
  | zero =>
    rw [Nat.zero_add]
    rfl
  | succ m ih =>
    rw [Nat.add_right_comm, run, run, Option.bind_assoc]
    exact Option.bind_congr fun next _ => ih next

theorem run_succ_eq_some_iff {n : Nat} {last : Listing} :
    run pages (n + 1) l = some last ↔
      ∃ mid, run pages n l = some mid ∧ next? pages mid = some last := by
  have hone : run pages 1 = next? pages := by
    funext mid
    show (next? pages mid).bind (run pages 0) = next? pages mid
    cases next? pages mid <;> rfl
  rw [run_add, Option.bind_eq_some_iff, hone]

/-- What each expansion preserves, a run preserves. -/
theorem run_preserves {P : Listing → Prop}
    (hstep : ∀ l next, P l → next? pages l = some next → P next) {n : Nat} {last : Listing}
    (hrun : run pages n l = some last) (hl : P l) : P last := by
  induction n generalizing last with
  | zero =>
    cases hrun
    exact hl
  | succ n ih =>
    obtain ⟨mid, hmid, hnext⟩ := run_succ_eq_some_iff.mp hrun
    exact hstep mid last (ih hmid) hnext

theorem run_eq_none_of_le {m n : Nat} (h : run pages m l = none) (hle : m ≤ n) :
    run pages n l = none := by
  obtain ⟨k, rfl⟩ := Nat.exists_eq_add_of_le hle
  rw [run_add, h, Option.bind_none]

theorem next?_eq_some_iff :
    next? pages l = some next ↔ (step pages l).result = .ok (some next) := by
  unfold next?
  cases (step pages l).result with
  | error e => simp
  | ok found => simp

/-- The last listing of a run has an answer. -/
theorem listAnswer_of_next?_eq_none (h : next? pages l = none) :
    ∃ answer, ListAnswer answer ∧ ∀ m, (expandWithin pages m l).result = answer := by
  cases hstep : (step pages l).result with
  | ok found =>
    cases found with
    | some next =>
      rw [next?_eq_some_iff.mpr hstep] at h
      cases h
    | none =>
      refine ⟨.ok l.text, .expanded ?_, result_expandWithin_of_none hstep⟩
      cases hfind : ListBlock.find l.text with
      | error e =>
        rw [result_step_of_find_error hfind] at hstep
        cases hstep
      | ok found =>
        cases found with
        | none => exact ListBlock.startFree_of_find hfind
        | some block =>
          rw [result_step_of_find_some hfind] at hstep
          cases hnew : l.repetitions block (selected pages block) <;> rw [hnew] at hstep <;>
            cases hstep
  | error e =>
    refine ⟨.error e, ?_, result_expandWithin_of_error hstep⟩
    cases hfind : ListBlock.find l.text with
    | error e' =>
      rw [result_step_of_find_error hfind] at hstep
      cases hstep
      obtain ⟨group, rfl | rfl⟩ := ListBlock.eq_of_find_error hfind
      · exact .missingListEnd group
      · exact .listEndBeforeStart group
    | ok found =>
      cases found with
      | none =>
        rw [result_step_of_find_none hfind] at hstep
        cases hstep
      | some block =>
        rw [result_step_of_find_some hfind] at hstep
        cases hnew : l.repetitions block (selected pages block) with
        | ok new =>
          rw [hnew] at hstep
          cases hstep
        | error e' =>
          rw [hnew] at hstep
          cases hstep
          rw [repetitions_eq_error hnew]
          exact .cyclicList block.start.group

/-- A run uses up one of the allowed expansions for each step. -/
theorem result_expandWithin_of_run {n : Nat} {last : Listing} (hrun : run pages n l = some last)
    (m : Nat) : (expandWithin pages (n + m) l).result = (expandWithin pages m last).result := by
  induction n generalizing l with
  | zero =>
    cases hrun
    rw [Nat.zero_add]
  | succ n ih =>
    obtain ⟨next, hnext, hrest⟩ := Option.bind_eq_some_iff.mp hrun
    have hstep := next?_eq_some_iff.mp hnext
    have hcount : n + 1 + m = n + m + 1 := by omega
    rw [hcount, result_expandWithin_succ hstep]
    exact ih hrest

/-- A run that goes on exhausts the allowed number of expansions. -/
theorem result_expandWithin_of_run_eq_some {n : Nat} {last : Listing}
    (h : run pages (n + 1) l = some last) :
    (expandWithin pages n l).result = .error .tooManyExpansions := by
  obtain ⟨mid, hmid, hnext⟩ := run_succ_eq_some_iff.mp h
  have hrest := result_expandWithin_of_run hmid 0
  exact hrest.trans (result_expandWithin_zero (next?_eq_some_iff.mp hnext))

/-- A run that ends has an answer, whatever number of expansions is allowed from then on. -/
theorem listAnswer_of_run_eq_none {n : Nat} (h : run pages n l = none) :
    ∃ answer, ListAnswer answer ∧ ∀ m ≥ n, (expandWithin pages m l).result = answer := by
  induction n generalizing l with
  | zero => cases h
  | succ n ih =>
    cases hnext : next? pages l with
    | none =>
      obtain ⟨answer, hanswer, hresult⟩ := listAnswer_of_next?_eq_none hnext
      exact ⟨answer, hanswer, fun m _ => hresult m⟩
    | some next =>
      rw [run, hnext, Option.bind_some] at h
      obtain ⟨answer, hanswer, hresult⟩ := ih h
      refine ⟨answer, hanswer, fun m hm => ?_⟩
      obtain ⟨k, rfl⟩ : ∃ k, m = k + 1 := ⟨m - 1, by omega⟩
      rw [result_expandWithin_succ (next?_eq_some_iff.mp hnext)]
      exact hresult k (by omega)

/-- Expanding all blocks has an answer that does not change with more expansions allowed, if and
only if the run ends. -/
theorem exists_listAnswer_iff :
    (∃ n answer, ListAnswer answer ∧ ∀ m ≥ n, (expandWithin pages m l).result = answer) ↔
      ∃ n, run pages n l = none := by
  constructor
  · rintro ⟨n, answer, hanswer, hresult⟩
    refine ⟨n + 1, ?_⟩
    cases hrun : run pages (n + 1) l with
    | none => rfl
    | some last =>
      have hmany := result_expandWithin_of_run_eq_some hrun
      rw [hresult n (Nat.le_refl n)] at hmany
      rw [hmany] at hanswer
      cases hanswer
  · rintro ⟨n, hn⟩
    obtain ⟨answer, hanswer, hresult⟩ := listAnswer_of_run_eq_none hn
    exact ⟨n, answer, hanswer, hresult⟩

/-! ## Guarded runs -/

theorem AllSound.of_next? (h : AllSound pages l) (hnext : next? pages l = some next) :
    AllSound pages next := by
  obtain ⟨block, new, -, hnew, rfl⟩ := result_step_eq_some_iff.mp (next?_eq_some_iff.mp hnext)
  exact h.replaced hnew

theorem AllSound.of_run (h : AllSound pages l) {n : Nat} {last : Listing}
    (hrun : run pages n l = some last) : AllSound pages last :=
  run_preserves (fun _ _ hl hnext => hl.of_next? hnext) hrun h

/-- From the `n`-th listing on, the run expands only blocks that lineages guard. -/
def GuardedFrom (pages : PageSet) (n : Nat) (l : Listing) : Prop :=
  ∀ i ≥ n, ∀ last block, run pages i l = some last → ListBlock.find last.text = .ok (some block) →
    Guarded pages last block

theorem GuardedFrom.of_next? (h : GuardedFrom pages 0 l) (hnext : next? pages l = some next) :
    GuardedFrom pages 0 next := by
  intro i _ last block hrun hfind
  refine h (i + 1) (Nat.zero_le _) last block ?_ hfind
  rw [Listing.run, hnext, Option.bind_some, hrun]

/-- A guarded run ends: what its lineages lack descends. -/
theorem exists_run_eq_none_of_guardedFrom_zero (hsound : AllSound pages l)
    (hguarded : GuardedFrom pages 0 l) : ∃ n, run pages n l = none := by
  induction hw : weights pages l using
    (Multiset.wellFounded_isDershowitzMannaLT (α := Nat)).induction generalizing l with
  | _ w ih =>
    cases hnext : next? pages l with
    | none => exact ⟨1, by rw [run, hnext, Option.bind_none]⟩
    | some next =>
      obtain ⟨block, new, hfind, hnew, hreplaced⟩ :=
        result_step_eq_some_iff.mp (next?_eq_some_iff.mp hnext)
      have hlt := weights_replaced_lt hsound (hguarded 0 (Nat.le_refl 0) l block rfl hfind) hnew
      rw [← hreplaced, hw] at hlt
      obtain ⟨n, hn⟩ := ih _ hlt (hsound.of_next? hnext) (hguarded.of_next? hnext) rfl
      exact ⟨n + 1, by rw [run, hnext, Option.bind_some, hn]⟩

theorem exists_run_eq_none_iff (hsound : AllSound pages l) :
    (∃ n, run pages n l = none) ↔ ∃ n, GuardedFrom pages n l := by
  constructor
  · rintro ⟨n, hn⟩
    refine ⟨n, fun i hi last block hrun _ => ?_⟩
    rw [run_eq_none_of_le hn hi] at hrun
    cases hrun
  · rintro ⟨n, hguarded⟩
    cases hrun : run pages n l with
    | none => exact ⟨n, hrun⟩
    | some last =>
      have hlast : GuardedFrom pages 0 last := fun i _ further block hfurther hfind =>
        hguarded (n + i) (by omega) further block (by rw [run_add, hrun]; exact hfurther) hfind
      obtain ⟨k, hk⟩ := exists_run_eq_none_of_guardedFrom_zero (hsound.of_run hrun) hlast
      exact ⟨n + k, by rw [run_add, hrun]; exact hk⟩

end Listing

/-- Expanding the list blocks of a text ends with a `ListAnswer`, which stays the same however many
more expansions are allowed. -/
def EndsInListAnswer (pages : PageSet) (t : Text) : Prop :=
  ∃ n answer, ListAnswer answer ∧ ∀ m ≥ n, (expandLists m pages t).result = answer

/-- Expanding list blocks ends if and only if it comes to a listing from which on lineages guard
each expansion. -/
theorem endsInListAnswer_iff (pages : PageSet) (t : Text) :
    EndsInListAnswer pages t ↔ ∃ n, Listing.GuardedFrom pages n (Listing.ofText t) := by
  have hrun := Listing.exists_run_eq_none_iff (Listing.allSound_ofText pages t)
  exact Listing.exists_listAnswer_iff.trans hrun

/-! ## An endless expansion -/

namespace Listing

/-- The list start of the endless listings. -/
def endlessStart : Placeholder := ⟨.post, "list:g:2".toList⟩

/-- The post field of the endless listings. -/
def endlessField : Placeholder := ⟨.post, "post-title".toList⟩

/-- A page without values. -/
def keepingPage : Page :=
  { group := "g".toList, date := "2".toList }

/-- A page whose title asks for a title again and ends a block. -/
def endingPage : Page :=
  { group := "g".toList, date := "1".toList, title := endlessField.raw ++ listEnd.raw }

/-- The pages of the endless expansion. -/
def endlessPages : PageSet :=
  .ofList [("a".toList, keepingPage), ("b".toList, endingPage)]

/-- The body of the first block of an endless listing: some characters, a list start and a post
field. -/
def endlessBody (v : Text) : Text :=
  v ++ (endlessStart.raw ++ endlessField.raw)

/-- A listing with two list starts and one list end. -/
def endlessListing (u v w : Text) : Listing where
  text := u ++ (endlessStart.raw ++ (endlessBody v ++ (listEnd.raw ++ w)))
  lineages := [[], []]

theorem plain_endlessStart : endlessStart.Plain :=
  Placeholder.plain_of_listStart? (s := ⟨"g".toList, 2⟩) (by decide)

theorem plain_endlessField : endlessField.Plain where
  isBody := by decide
  sigilFree := by decide

theorem selected_endlessPages (u v w : Text) :
    selected endlessPages ⟨u, ⟨"g".toList, 2⟩, endlessBody v, w⟩ =
      [("a".toList, keepingPage), ("b".toList, endingPage)] := by
  have hgroup : PageSet.ofGroup endlessPages "g".toList =
      [("a".toList, keepingPage), ("b".toList, endingPage)] := by rfl
  have hsorted : [("a".toList, keepingPage), ("b".toList, endingPage)].Pairwise
      fun d e => PageSet.notOlder d e := by decide
  show PageSet.select endlessPages "g".toList 2 = _
  rw [PageSet.select, PageSet.mostRecent, hgroup, List.mergeSort_of_pairwise hsorted]
  rfl

section Step

variable {u v : Text} (hu : SigilFree u) (hv : SigilFree v)

include hv

theorem placeholders_endlessBody : placeholders (endlessBody v) = [endlessStart, endlessField] := by
  rw [endlessBody, placeholders_append_plain hv, placeholders_raw_append plain_endlessStart,
    placeholders_raw plain_endlessField]

theorem countStarts_endlessBody : ListBlock.countStarts (endlessBody v) = 1 := by
  rw [countStarts_eq, placeholders_endlessBody hv]
  decide

/-- A page without variables puts its title in the place of the post field. -/
theorem fillPage_endlessBody {p : Page} (hp : p.bindings = ∅) :
    p.fillPage (endlessBody v) = v ++ (endlessStart.raw ++ p.title) := by
  have hvars : fillVariables p.bindings (endlessBody v) = endlessBody v := by
    refine substitute_eq_self fun q hq => ?_
    rw [placeholders_endlessBody hv] at hq
    rw [hp]
    rcases List.mem_pair.mp hq with rfl | rfl <;> rfl
  have hstart : p.fieldResolver endlessStart = none := rfl
  have hfield : p.fieldResolver endlessField = some p.title := rfl
  rw [Page.fillPage, hvars, Page.fillFields, endlessBody, substitute_append_plain _ hv,
    substitute_raw_append _ plain_endlessStart, substitute_raw _ plain_endlessField, hstart, hfield]
  rfl

/-- A page whose title has no list start keeps the one of the body, with its lineage. -/
theorem repetition_endlessListing {p : Page} (hp : p.bindings = ∅)
    (htitle : ListBlock.countStarts p.title = 0) (name w : Text) :
    (endlessListing u v w).repetition ⟨u, ⟨"g".toList, 2⟩, endlessBody v, w⟩ name p =
      .ok ⟨v ++ (endlessStart.raw ++ p.title) ++ blockSeparator, [[]]⟩ := by
  have hbody := countStarts_endlessBody hv
  have hfilled : ListBlock.countStarts (v ++ (endlessStart.raw ++ p.title)) = 1 := by
    rw [countStarts_eq] at htitle ⊢
    rw [placeholders_append_plain hv, placeholders_raw_append plain_endlessStart,
      List.countP_cons, htitle]
    decide
  unfold repetition inner
  simp only [fillPage_endlessBody hv hp, hfilled, hbody]
  rfl

include hu

theorem find_endlessListing (w : Text) : ListBlock.find (endlessListing u v w).text =
    .ok (some ⟨u, ⟨"g".toList, 2⟩, endlessBody v, w⟩) := by
  have hfree : ListFree u := .of_plain hu
  have hends : EndFree (endlessBody v) := by
    unfold EndFree
    rw [placeholders_endlessBody hv]
    decide
  exact ListBlock.find_append (by decide) hfree.startFree hfree.endFree hends w

/-- Both pages keep the inner list start, and the second one brings a list end: there are two list
starts and one list end as before. -/
theorem next?_endlessListing (w : Text) :
    next? endlessPages (endlessListing u v w) =
      some (endlessListing (u ++ v) (blockSeparator ++ v) (blockSeparator ++ w)) := by
  let block : ListBlock := ⟨u, ⟨"g".toList, 2⟩, endlessBody v, w⟩
  have hnew : (endlessListing u v w).repetitions block (selected endlessPages block) =
      .ok ⟨(v ++ (endlessStart.raw ++ []) ++ blockSeparator) ++
        ((v ++ (endlessStart.raw ++ (endlessField.raw ++ listEnd.raw)) ++ blockSeparator) ++ []),
        [[], []]⟩ := by
    rw [selected_endlessPages, repetitions, repetition_endlessListing hv rfl (by decide),
      repetitions, repetition_endlessListing hv rfl (by decide)]
    rfl
  refine next?_eq_some_iff.mpr (result_step_eq_some_iff.mpr
    ⟨block, _, find_endlessListing hu hv w, hnew, ?_⟩)
  have houter : (endlessListing u v w).outer block = [] := by
    unfold outer
    rw [countStarts_endlessBody hv]
    rfl
  rw [replaced, houter]
  simp only [endlessListing, endlessBody, List.append_assoc, List.append_nil]
  rfl

end Step

/-- The run on an endless listing goes on. -/
theorem exists_run_endlessListing (n : Nat) {u v : Text} (hu : SigilFree u)
    (hv : SigilFree v) (w : Text) :
    ∃ last, run endlessPages n (endlessListing u v w) = some last := by
  induction n generalizing u v w with
  | zero => exact ⟨_, rfl⟩
  | succ n ih =>
    have hsep : SigilFree blockSeparator := by decide
    obtain ⟨last, hlast⟩ := ih (hu.append hv) (hsep.append hv) (blockSeparator ++ w)
    exact ⟨last, by rw [run, next?_endlessListing hu hv, Option.bind_some, hlast]⟩

end Listing

/-- Two list starts share one list end, which a page brings back with each expansion. -/
theorem not_endsInListAnswer_endless :
    ¬ EndsInListAnswer
      (.ofList
        [("a".toList, { group := "g".toList, date := "2".toList }),
          ("b".toList,
            { group := "g".toList, date := "1".toList,
              title := "#{post-title}#{list:end}".toList })])
      "#{list:g:2}#{list:g:2}#{post-title}#{list:end}".toList := by
  intro hends
  obtain ⟨n, hn⟩ := Listing.exists_listAnswer_iff.mp hends
  have hempty : SigilFree [] := by decide
  obtain ⟨last, hlast⟩ := Listing.exists_run_endlessListing n hempty hempty []
  exact Option.some_ne_none last (hlast.symm.trans hn)

end StaticSite
