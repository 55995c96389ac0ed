import StaticSite.Proofs.Placeholder.Classification
import StaticSite.Proofs.Placeholder.Seam

/-!
# Cutting a text at its first list block

The first block of a text can be told without looking for list macros: before it there are none of
them, and in it there is no list end (`IsFirstBlock`). This is the block that is cut out of the text
(`find_eq_some_iff`).

The cuts go through no macro. Each list start, list end and name of the text is in one of its parts,
and the parts have no others (`macros_append`).
-/

namespace StaticSite

open Placeholder

/-! ## The macros of a text -/

instance (p : Placeholder) : Decidable p.IsMacro :=
  inferInstanceAs (Decidable (p.listStart?.isSome ∨ p.isListEnd ∨ p.identifier?.isSome))

/-- The list starts, the list ends and the names of a text, in order. -/
def macros (t : Text) : List Placeholder :=
  (placeholders t).filter fun p => p.IsMacro

theorem macros_eq_filterMap (offset : Nat) (t : Text) :
    macros t = (scanFrom offset t).filterMap
      (Option.guard (fun p : Placeholder => p.IsMacro) ∘ Occurrence.placeholder) := by
  rw [macros, ← map_placeholder_scanFrom offset, ← List.filterMap_eq_filter, List.filterMap_map]

/-- A text around a list block has the macros of its parts: no macro reaches from one part into
another one. -/
theorem macros_append {p : Placeholder} {s : ListStart} (hp : p.listStart? = some s)
    (before body after : Text) :
    macros (before ++ (p.raw ++ (body ++ (listEnd.raw ++ after)))) =
      macros before ++ p :: (macros body ++ listEnd :: macros after) := by
  have hstart : p.IsMacro := .inl (Option.isSome_of_eq_some hp)
  have hend : listEnd.IsMacro := .inr (.inl (isListEnd_iff.mpr rfl))
  have hplain : ∀ o : Occurrence,
      ((Option.guard (fun p : Placeholder => p.IsMacro) ∘ Occurrence.placeholder) o).isSome →
        o.placeholder.Plain := by
    intro o ho
    rw [Function.comp_apply, Option.isSome_guard, decide_eq_true_iff] at ho
    exact ho.plain
  rw [macros_eq_filterMap 0, ← scan_eq,
    ListBlock.filterMap_scan_append hplain (plain_of_listStart? hp), scan_eq,
    ← macros_eq_filterMap, ← macros_eq_filterMap, ← macros_eq_filterMap]
  simp [Option.guard, hstart, hend]

namespace ListBlock

variable {t : Text} {block : ListBlock}

/-! ## The first block -/

/-- A text is put together around its first list block. -/
structure IsFirstBlock (t : Text) (block : ListBlock) : Prop where
  /-- The body stands between a list start and a list end. -/
  exists_opening : ∃ opening : Placeholder, opening.listStart? = some block.start ∧
    t = block.before ++ (opening.raw ++ (block.body ++ (listEnd.raw ++ block.after)))
  /-- There is no list start before it. -/
  startFree_before : StartFree block.before
  /-- There is no list end before it. -/
  endFree_before : EndFree block.before
  /-- There is no list end in it. -/
  endFree_body : EndFree block.body

theorem find_eq_some_iff : find t = .ok (some block) ↔ IsFirstBlock t block := by
  constructor
  · intro h
    obtain ⟨opening, closing, hcut⟩ := exists_cutAt_of_find h
    exact ⟨exists_of_find h, hcut.startFree_before, hcut.endFree_before, hcut.endFree_body⟩
  · rintro ⟨⟨opening, hopening, rfl⟩, hstarts, hends, hbodyEnds⟩
    exact find_append hopening hstarts hends hbodyEnds block.after

/-! ## The cuts -/

/-- A text is cut at its first list block, and the cuts go through no macro. -/
theorem find_cutsNoMacro (t : Text) :
    (∀ result, find t = result ↔ Found t result) ∧
      (∀ block, find t = .ok (some block) ↔ IsFirstBlock t block) ∧
      ∀ block, find t = .ok (some block) →
        (∃ opening closing, CutAt t opening closing block ∧
          macros t = macros block.before ++
            opening.placeholder :: (macros block.body ++ listEnd :: macros block.after)) ∧
        countStarts t = 1 + countStarts block.body + countStarts block.after := by
  refine ⟨fun result => find_eq_iff, fun block => find_eq_some_iff,
    fun block h => ⟨?_, countStarts_of_find h⟩⟩
  obtain ⟨opening, closing, hcut⟩ := exists_cutAt_of_find h
  refine ⟨opening, closing, hcut, ?_⟩
  have hmacros := macros_append hcut.listStart?_opening block.before block.body block.after
  rwa [← hcut.eq_append] at hmacros

/-- A list start in another placeholder, closed by the same brace, and a second one in the body. -/
theorem find_cutsNoMacro_nested :
    let t : Text :=
      "@\x7bé #\x7blist:a:2\x7dx#\x7blist:b:1\x7d@\x7by\x7d#\x7blist:end\x7dz".toList
    let block : ListBlock :=
      ⟨"@\x7bé ".toList, ⟨"a".toList, 2⟩, "x#\x7blist:b:1\x7d@\x7by\x7d".toList, "z".toList⟩
    find t = .ok (some block) ∧ IsFirstBlock t block ∧
      countStarts t = 1 + countStarts block.body + countStarts block.after := by
  intro t block
  have hfind : find t = .ok (some block) := by rfl
  obtain ⟨-, hfirst, hcuts⟩ := find_cutsNoMacro t
  exact ⟨hfind, (hfirst block).mp hfind, (hcuts block hfind).2⟩

end ListBlock

end StaticSite
