import StaticSite.Proofs.Placeholder.LeftToRight

/-!
# Placeholders never cross

Two placeholders of a text can share characters in one way only: one is the end of the other, and
one brace closes both (`stop_le_or_nestedIn`). For a placeholder runs up to the first closing brace
behind its opening, so whatever begins inside of it comes upon that brace first.

A pass of substitution goes on behind each placeholder that it replaces. Those that it skips begin
in a replaced one, and so they are gone with it as a whole (`exists_nestedIn_of_mem_skipped`). No
placeholder is cut by the pass (`Uncut`).
-/

namespace StaticSite

/-! ## Nested placeholders -/

/-- A placeholder is the end of another one, closed by the same brace. -/
structure Occurrence.NestedIn (inner outer : Occurrence) : Prop where
  /-- It begins further on. -/
  start_lt : outer.start < inner.start
  /-- One brace closes both. -/
  stop_eq : inner.stop = outer.stop
  /-- It is written at the end of the other one, and something stands before it there. -/
  exists_head : ∃ head, head ≠ [] ∧ outer.placeholder.raw = head ++ inner.placeholder.raw

/-- The first closing brace of a placeholder is its own. -/
theorem closeBrace?_raw_append {p : Placeholder} (hp : IsBody p.body) (rest : Text) :
    closeBrace? (p.raw ++ rest) = some (p.sigil.char :: '{' :: p.body, rest) := by
  refine closeBrace?_eq_some_iff.mpr ⟨fun c hc => ?_, by simp [Placeholder.raw]⟩
  rcases List.mem_cons.mp hc with rfl | hc
  · cases p.sigil <;> decide
  · rcases List.mem_cons.mp hc with rfl | hc
    · decide
    · exact hp c hc

/-- An end of a placeholder goes up to its closing brace and holds no other. -/
theorem exists_isBody_of_raw_eq_append {p : Placeholder} (hp : IsBody p.body) {head tail : Text}
    (hraw : p.raw = head ++ tail) (htail : tail ≠ []) :
    ∃ inner, tail = inner ++ ['}'] ∧ IsBody inner := by
  obtain ⟨inner, c, rfl⟩ : ∃ inner c, tail = inner ++ [c] :=
    ⟨_, _, (List.dropLast_concat_getLast htail).symm⟩
  have hfirst := (closeBrace?_eq_some_iff.mp (closeBrace?_raw_append hp [])).1
  have hsplit : p.sigil.char :: '{' :: p.body ++ ['}'] = head ++ inner ++ [c] := by
    rw [List.append_assoc]
    exact hraw
  obtain ⟨hinner, hc⟩ := List.append_inj' hsplit rfl
  obtain rfl : '}' = c := List.head_eq_of_cons_eq hc
  rw [hinner] at hfirst
  exact ⟨inner, rfl, fun d hd => hfirst d (List.mem_append_right _ hd)⟩

/-- Where a text begins with a placeholder, another one begins behind it or is the end of it. -/
theorem raw_eq_append_of_split {p q : Placeholder} (hp : IsBody p.body) (hq : IsBody q.body)
    {head rest rest' : Text} (h : p.raw ++ rest = head ++ (q.raw ++ rest')) :
    (∃ gap, head = p.raw ++ gap) ∨ p.raw = head ++ q.raw := by
  rcases List.append_eq_append_iff.mp h with ⟨gap, hhead, -⟩ | ⟨tail, hraw, htail⟩
  · exact .inl ⟨gap, hhead⟩
  · by_cases hnil : tail = []
    · rw [hnil, List.append_nil] at hraw
      exact .inl ⟨[], by rw [List.append_nil, hraw]⟩
    · right
      obtain ⟨inner, rfl, hinner⟩ := exists_isBody_of_raw_eq_append hp hraw hnil
      -- both readings of the tail end at its first closing brace
      have hfirst : closeBrace? (inner ++ ['}'] ++ rest) = some (inner, rest) :=
        closeBrace?_eq_some_iff.mpr ⟨hinner, List.append_assoc _ _ _⟩
      rw [← htail, closeBrace?_raw_append hq] at hfirst
      obtain ⟨hopening, -⟩ := Prod.mk.inj (Option.some.inj hfirst)
      rw [hraw, ← hopening]
      rfl

/-- Of two placeholders of a text, the later one begins behind the earlier one or is nested in it.
-/
theorem stop_le_or_nestedIn {t : Text} {o p : Occurrence} (ho : o ∈ scan t) (hp : p ∈ scan t)
    (hlt : o.start < p.start) : o.stop ≤ p.start ∨ p.NestedIn o := by
  obtain ⟨before, rest, ht, hbody, hstart⟩ := mem_scan_iff.mp ho
  obtain ⟨before', rest', ht', hbody', hstart'⟩ := mem_scan_iff.mp hp
  obtain ⟨head, rfl, hsplit⟩ :=
    Text.exists_append_of_utf8Size_le (ht.symm.trans ht') (by omega)
  rw [Text.utf8Size_append] at hstart'
  rcases raw_eq_append_of_split hbody hbody' hsplit with ⟨gap, rfl⟩ | hraw
  · left
    rw [Text.utf8Size_append] at hstart'
    rw [Occurrence.stop]
    omega
  · right
    have hsize := congrArg Text.utf8Size hraw
    rw [Text.utf8Size_append] at hsize
    have hstop : p.stop = o.stop := by
      rw [Occurrence.stop, Occurrence.stop]
      omega
    have hhead : head ≠ [] := by
      rintro rfl
      rw [Text.utf8Size_nil] at hstart'
      omega
    exact ⟨hlt, hstop, head, hhead, hraw⟩

/-! ## What a pass skips -/

/-- The placeholders that a pass skips: those that begin before its cursor. -/
def skipped (resolve : OccurrenceResolver) (cursor : Nat) : List Occurrence → List Occurrence
  | [] => []
  | o :: os =>
    if o.start < cursor then o :: skipped resolve cursor os
    else
      match resolve o with
      | some _ => skipped resolve o.stop os
      | none => skipped resolve cursor os

section Pass

variable {resolve : OccurrenceResolver} {os : List Occurrence}

/-- The resolver is asked for all placeholders but the skipped ones. -/
theorem perm_asked_append_skipped (cursor : Nat) :
    (asked resolve cursor os ++ skipped resolve cursor os).Perm os := by
  induction os generalizing cursor with
  | nil => exact .refl _
  | cons o os ih =>
    rw [asked, skipped]
    by_cases hlt : o.start < cursor
    · rw [if_pos hlt, if_pos hlt]
      exact List.perm_middle.trans ((ih cursor).cons o)
    · rw [if_neg hlt, if_neg hlt]
      cases resolve o with
      | none => exact (ih cursor).cons o
      | some value => exact (ih o.stop).cons o

theorem mem_of_mem_skipped {cursor : Nat} {o : Occurrence} (h : o ∈ skipped resolve cursor os) :
    o ∈ os :=
  (perm_asked_append_skipped cursor).mem_iff.mp (List.mem_append_right _ h)

/-- The cursor of a pass stands where it began or behind a replaced placeholder. So what is skipped
begins before the first place or inside of a replaced one. -/
theorem lt_or_beginsInside_of_mem_skipped (hos : os.Pairwise fun o p => o.start < p.start)
    {cursor : Nat} {o : Occurrence} (h : o ∈ skipped resolve cursor os) :
    o.start < cursor ∨ ∃ r ∈ replacements resolve cursor os, o.beginsInside r.1 = true := by
  induction os generalizing cursor with
  | nil => exact absurd h List.not_mem_nil
  | cons p os ih =>
    obtain ⟨hfirst, hos⟩ := List.pairwise_cons.mp hos
    rw [skipped] at h
    rw [replacements]
    by_cases hlt : p.start < cursor
    · rw [if_pos hlt] at h ⊢
      rcases List.mem_cons.mp h with rfl | h
      · exact .inl hlt
      · exact ih hos h
    · rw [if_neg hlt] at h ⊢
      cases hvalue : resolve p with
      | none =>
        rw [hvalue] at h
        exact ih hos h
      | some value =>
        rw [hvalue] at h
        right
        rcases ih hos h with hbefore | ⟨r, hr, hinside⟩
        · refine ⟨_, List.mem_cons_self, ?_⟩
          have hbehind := hfirst o (mem_of_mem_skipped h)
          simp [Occurrence.beginsInside, hbehind, hbefore]
        · exact ⟨r, List.mem_cons_of_mem _ hr, hinside⟩

end Pass

/-! ## The fate of placeholders -/

/-- What becomes of a placeholder where a pass replaces some placeholders of the text. It is not
cut: what is replaced of it is all of it, nothing, or a placeholder that is nested in it. -/
inductive Uncut (resolve : OccurrenceResolver) (replaced : List (Occurrence × Text))
    (o : Occurrence) : Prop
  /-- It has a value and is replaced. -/
  | filled {value : Text} (hvalue : resolve o = some value) (h : (o, value) ∈ replaced)
  /-- It is nested in a replaced one and gone with it. -/
  | gone {r : Occurrence × Text} (hr : r ∈ replaced) (h : o.NestedIn r.1)
  /-- It has no value and begins in no replaced one, so its sigil stands. -/
  | kept (hvalue : resolve o = none)
      (h : ∀ r ∈ replaced, r.1.stop ≤ o.start ∨ o.stop ≤ r.1.start ∨ r.1.NestedIn o)

section Pass

variable {resolve : OccurrenceResolver} {t : Text} {o : Occurrence}

theorem mem_replacements_iff {cursor : Nat} {os : List Occurrence} {r : Occurrence × Text} :
    r ∈ replacements resolve cursor os ↔
      r.1 ∈ asked resolve cursor os ∧ resolve r.1 = some r.2 := by
  rw [replacements_eq_filterMap, List.mem_filterMap]
  constructor
  · rintro ⟨o, ho, hr⟩
    obtain ⟨value, hvalue, rfl⟩ := Option.map_eq_some_iff.mp hr
    exact ⟨ho, hvalue⟩
  · rintro ⟨hr, hvalue⟩
    exact ⟨r.1, hr, by rw [hvalue]; rfl⟩

/-- What a pass skips is nested in what it replaces. -/
theorem exists_nestedIn_of_mem_skipped (h : o ∈ skipped resolve 0 (scan t)) :
    ∃ r ∈ replacements resolve 0 (scan t), o.NestedIn r.1 := by
  rcases lt_or_beginsInside_of_mem_skipped (pairwise_start_scan t) h with hbefore | ⟨r, hr, hinside⟩
  · exact absurd hbefore (Nat.not_lt_zero _)
  · refine ⟨r, hr, ?_⟩
    simp only [Occurrence.beginsInside, Bool.and_eq_true, decide_eq_true_eq] at hinside
    obtain ⟨hlt, hstop⟩ := hinside
    exact (stop_le_or_nestedIn (mem_of_mem_replacements hr) (mem_of_mem_skipped h) hlt).resolve_left
      (Nat.not_le_of_lt hstop)

/-- What the resolver is asked for begins in no replaced placeholder. -/
theorem not_beginsInside_of_mem_asked (h : o ∈ asked resolve 0 (scan t)) {r : Occurrence × Text}
    (hr : r ∈ replacements resolve 0 (scan t)) : o.beginsInside r.1 = false := by
  rw [asked_eq_filter (pairwise_start_scan t)] at h
  have hall := (Bool.and_eq_true_iff.mp (List.mem_filter.mp h).2).2
  exact Bool.not_eq_true' _ ▸ List.all_eq_true.mp hall r hr

theorem uncut_of_mem_asked (h : o ∈ asked resolve 0 (scan t)) :
    Uncut resolve (replacements resolve 0 (scan t)) o := by
  have ho : o ∈ scan t :=
    (perm_asked_append_skipped 0).mem_iff.mp (List.mem_append_left _ h)
  cases hvalue : resolve o with
  | some value => exact .filled hvalue (mem_replacements_iff.mpr ⟨h, hvalue⟩)
  | none =>
    refine .kept hvalue fun r hr => ?_
    have hmem := mem_of_mem_replacements hr
    rcases Nat.lt_trichotomy r.1.start o.start with hlt | heq | hlt
    · left
      have houtside := not_beginsInside_of_mem_asked h hr
      simp only [Occurrence.beginsInside, Bool.and_eq_false_iff, decide_eq_false_iff_not] at houtside
      omega
    · -- the same one: it would have a value
      have hr := (mem_replacements_iff.mp hr).2
      rw [eq_of_start_eq hmem ho heq, hvalue] at hr
      cases hr
    · exact .inr (stop_le_or_nestedIn ho hmem hlt)

end Pass

/-- Placeholders never cross: of two, the later one begins behind the earlier one, or it is the end
of it, closed by the same brace. So what a pass skips is nested in what it replaces, and no
placeholder of the text is cut where values take the place of the replaced ones. -/
theorem placeholders_neverCross (resolve : OccurrenceResolver) (t : Text) :
    (∀ o ∈ scan t, ∀ p ∈ scan t, o.start < p.start → o.stop ≤ p.start ∨ p.NestedIn o) ∧
      Spliced 0 t (replacements resolve 0 (scan t)) (substituteOccurrences resolve t) ∧
      (asked resolve 0 (scan t) ++ skipped resolve 0 (scan t)).Perm (scan t) ∧
      (∀ o ∈ skipped resolve 0 (scan t),
        ∃ r ∈ replacements resolve 0 (scan t), o.NestedIn r.1) ∧
      ∀ o ∈ scan t, Uncut resolve (replacements resolve 0 (scan t)) o := by
  refine ⟨fun o ho p hp hlt => stop_le_or_nestedIn ho hp hlt, ?_, perm_asked_append_skipped 0,
    fun o ho => exists_nestedIn_of_mem_skipped ho, fun o ho => ?_⟩
  · rw [substituteOccurrences_eq]
    exact spliced_substituteOccurrences resolve t
  · rcases List.mem_append.mp ((perm_asked_append_skipped 0).mem_iff.mpr ho) with hasked | hskipped
    · exact uncut_of_mem_asked hasked
    · obtain ⟨r, hr, hnested⟩ := exists_nestedIn_of_mem_skipped hskipped
      exact .gone hr hnested

/-- A placeholder is skipped in one that is replaced, and another one is replaced inside of one that
is kept. -/
theorem placeholders_neverCross_nested :
    let t : Text := "é@\x7ba $\x7bb\x7d\x7d @\x7bc #\x7bd\x7d\x7d".toList
    let resolve : OccurrenceResolver := fun o =>
      if o.placeholder.body = "a $\x7bb".toList ∨ o.placeholder.body = "d".toList then
        some "x".toList
      else none
    let outer : Occurrence := ⟨⟨.value, "a $\x7bb".toList⟩, 2⟩
    let inner : Occurrence := ⟨⟨.template, "b".toList⟩, 6⟩
    let last : Occurrence := ⟨⟨.value, "c #\x7bd".toList⟩, 12⟩
    outer ∈ scan t ∧ inner ∈ scan t ∧ last ∈ scan t ∧ outer.start < inner.start ∧
      inner ∈ skipped resolve 0 (scan t) ∧ inner.NestedIn outer ∧
      Uncut resolve (replacements resolve 0 (scan t)) last := by
  intro t resolve outer inner last
  have houter : outer ∈ scan t := by decide
  have hinner : inner ∈ scan t := by decide
  have hlast : last ∈ scan t := by decide
  have hlt : outer.start < inner.start := by decide
  obtain ⟨hcross, -, -, -, huncut⟩ := placeholders_neverCross resolve t
  have hnested := (hcross outer houter inner hinner hlt).resolve_left (by decide)
  exact ⟨houter, hinner, hlast, hlt, by decide, hnested, huncut last hlast⟩

end StaticSite
