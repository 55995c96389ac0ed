import StaticSite.Proofs.Placeholder.ListBlock

/-!
# List starts at the seam of two texts

When two texts are put behind each other, no list start of either is lost. There is at most one
more: one that begins in the first text and ends in the second one (`JoinsStart`). So the list
starts of the whole are those of the parts, and one more exactly if there is such a start
(`countStarts_append_eq_iff`).

At a list start, at a list end and at a line break there is none. So the list starts of a text are
the start of its first block, those of the body and those behind the block
(`ListBlock.countStarts_of_find`).
-/

namespace StaticSite

open Placeholder

/-- An end of the first text and a beginning of the second one make a list start. -/
def JoinsStart (s t : Text) : Prop :=
  ∃ (p : Placeholder) (before x y after : Text), p.listStart?.isSome ∧ p.raw = x ++ y ∧ x ≠ [] ∧
    y ≠ [] ∧ s = before ++ x ∧ t = y ++ after

/-! ## The first character -/

theorem countStarts_cons_none {c : Char} {t : Text} (h : atStart? (c :: t) = none) :
    ListBlock.countStarts (c :: t) = ListBlock.countStarts t := by
  rw [countStarts_eq, countStarts_eq, placeholders_cons_none h]

theorem countStarts_cons_some {c : Char} {t rest : Text} {p : Placeholder}
    (h : atStart? (c :: t) = some (p, rest)) :
    ListBlock.countStarts (c :: t) =
      ListBlock.countStarts t + if p.listStart?.isSome then 1 else 0 := by
  rw [countStarts_eq, countStarts_eq, placeholders_cons_some h, List.countP_cons]

theorem countStarts_append_plain {s : Text} (hs : SigilFree s) (t : Text) :
    ListBlock.countStarts (s ++ t) = ListBlock.countStarts t := by
  rw [countStarts_eq, countStarts_eq, placeholders_append_plain hs]

theorem countStarts_of_plain {s : Text} (hs : SigilFree s) : ListBlock.countStarts s = 0 := by
  have h := countStarts_append_plain hs []
  rwa [List.append_nil] at h

theorem countStarts_raw_append {p : Placeholder} (hp : p.Plain) (t : Text) :
    ListBlock.countStarts (p.raw ++ t) =
      ListBlock.countStarts t + if p.listStart?.isSome then 1 else 0 := by
  rw [countStarts_eq, countStarts_eq, placeholders_raw_append hp, List.countP_cons]

/-! ## Where no list start is joined -/

/-- No list start reaches into a text that begins with a sigil or a line break. -/
theorem not_joinsStart_cons {c : Char} (hc : isSigil c = true ∨ c = '\n') (s t : Text) :
    ¬ JoinsStart s (c :: t) := by
  rintro ⟨p, before, x, y, after, hp, hraw, hx, hy, -, ht⟩
  obtain ⟨d, y, rfl⟩ := List.exists_cons_of_ne_nil hy
  obtain ⟨rfl, -⟩ := List.cons.inj ht
  exact (plain_of_isSome_listStart? hp).raw_ne_append hc hx y hraw

theorem not_joinsStart_raw (s : Text) (p : Placeholder) (t : Text) :
    ¬ JoinsStart s (p.raw ++ t) := by
  rw [p.raw_append]
  exact not_joinsStart_cons (.inl (isSigil_char p.sigil)) s _

theorem JoinsStart.cons {s t : Text} (h : JoinsStart s t) (c : Char) : JoinsStart (c :: s) t := by
  obtain ⟨p, before, x, y, after, hp, hraw, hx, hy, rfl, rfl⟩ := h
  exact ⟨p, c :: before, x, y, after, hp, hraw, hx, hy, rfl, rfl⟩

/-! ## The list starts of two texts -/

theorem countStarts_append {s t : Text} (h : ¬ JoinsStart s t) :
    ListBlock.countStarts (s ++ t) = ListBlock.countStarts s + ListBlock.countStarts t := by
  induction s with
  | nil => exact (Nat.zero_add _).symm
  | cons c s ih =>
    have ih := ih fun hs => h (hs.cons c)
    rw [List.cons_append]
    cases hself : atStart? (c :: s) with
    | some found =>
      obtain ⟨p, rest⟩ := found
      have hwhole : atStart? (c :: (s ++ t)) = some (p, rest ++ t) := atStart?_append hself t
      rw [countStarts_cons_some hself, countStarts_cons_some hwhole, ih]
      omega
    | none =>
      rw [countStarts_cons_none hself]
      cases hwhole : atStart? (c :: (s ++ t)) with
      | none => rw [countStarts_cons_none hwhole, ih]
      | some found =>
        obtain ⟨p, rest⟩ := found
        obtain ⟨y, hraw, hy, ht⟩ := exists_raw_eq_append hself hwhole
        -- it is no list start, because no list start is joined
        have hp : ¬ p.listStart?.isSome := fun hp =>
          h ⟨p, [], c :: s, y, rest, hp, hraw, List.cons_ne_nil _ _, hy, rfl, ht⟩
        rw [countStarts_cons_some hwhole, ih, if_neg hp, Nat.add_zero]

/-- A list start that is joined is the only one at the seam: its parts have none. -/
theorem countStarts_append_of_joinsStart {s t : Text} (h : JoinsStart s t) :
    ListBlock.countStarts (s ++ t) = ListBlock.countStarts s + ListBlock.countStarts t + 1 := by
  obtain ⟨p, before, x, y, after, hp, hraw, hx, hy, rfl, rfl⟩ := h
  have hplain := plain_of_isSome_listStart? hp
  obtain ⟨d, x, rfl⟩ := List.exists_cons_of_ne_nil hx
  have hd : d = p.sigil.char := (List.cons.inj hraw).1.symm
  have htail : '{' :: p.body ++ ['}'] = x ++ y := (List.cons.inj hraw).2
  have hfree : SigilFree (x ++ y) := htail ▸ hplain.sigilFree_tail
  have hxfree : SigilFree x := fun c hc => hfree c (List.mem_append_left _ hc)
  have hyfree : SigilFree y := fun c hc => hfree c (List.mem_append_right _ hc)
  have hnone : atStart? (d :: x) = none := by
    cases hat : atStart? (d :: x) with
    | none => rfl
    | some found =>
      obtain ⟨q, rest⟩ := found
      have hwhole := atStart?_append hat y
      have hself := hplain.atStart?_raw []
      rw [List.append_nil, hraw, hwhole] at hself
      obtain ⟨-, hrest⟩ := Prod.mk.inj (Option.some.inj hself)
      exact absurd (List.append_eq_nil_iff.mp hrest).2 hy
  have hwhole : before ++ d :: x ++ (y ++ after) = before ++ (p.raw ++ after) := by
    rw [hraw]
    simp only [List.append_assoc]
  have hseam : ¬ JoinsStart before (d :: x) :=
    not_joinsStart_cons (.inl (hd ▸ isSigil_char p.sigil)) before x
  rw [hwhole, countStarts_append (not_joinsStart_raw before p after), countStarts_raw_append hplain,
    if_pos hp, countStarts_append hseam, countStarts_cons_none hnone, countStarts_of_plain hxfree,
    countStarts_append_plain hyfree]
  omega

theorem countStarts_append_eq_iff {s t : Text} :
    ListBlock.countStarts (s ++ t) = ListBlock.countStarts s + ListBlock.countStarts t ↔
      ¬ JoinsStart s t := by
  constructor
  · intro hcount hjoins
    rw [countStarts_append_of_joinsStart hjoins] at hcount
    omega
  · exact countStarts_append

/-- A text that no placeholder leaves joins no list start with what follows. -/
theorem Closed.not_joinsStart {s : Text} (hs : Closed s) (t : Text) : ¬ JoinsStart s t := by
  rw [← countStarts_append_eq_iff, countStarts_eq, hs.placeholders_append, List.countP_append,
    countStarts_eq, countStarts_eq]

/-! ## The list starts around the first block -/

namespace ListBlock

variable {t : Text} {block : ListBlock}

/-- Before the first block there is no list start. -/
theorem startFree_before (h : find t = .ok (some block)) : StartFree block.before := by
  obtain ⟨opening, closing, hcut⟩ := exists_cutAt_of_find h
  exact hcut.startFree_before

/-- The list starts of a text are the start of its first block, those of the body and those behind
the block. -/
theorem countStarts_of_find (h : find t = .ok (some block)) :
    countStarts t = 1 + countStarts block.body + countStarts block.after := by
  have hbefore : countStarts block.before = 0 := countStarts_eq_zero_iff.mpr (startFree_before h)
  obtain ⟨opening, hopening, hsplit⟩ := exists_of_find h
  have hstart : opening.listStart?.isSome := Option.isSome_of_eq_some hopening
  rw [hsplit, countStarts_append (not_joinsStart_raw _ opening _), hbefore,
    countStarts_raw_append (plain_of_listStart? hopening), if_pos hstart,
    countStarts_append (not_joinsStart_raw _ listEnd _), countStarts_raw_append plain_listEnd,
    listStart?_listEnd]
  simp only [Option.isSome_none, Bool.false_eq_true, if_false]
  omega

end ListBlock

end StaticSite
