import StaticSite.Proofs.Placeholder.Grammar
import StaticSite.Proofs.Placeholder.Substitute

/-!
# What a pass of substitution asks for and takes

A pass goes over all placeholders of a text, also over those inside of other ones, with a cursor
that lags behind. One that is left alone still exposes the placeholders inside of it, and one that
is replaced hides them: the resolver is asked for exactly the placeholders that do not begin inside
of a replaced one (`asked_eq_filter`). Of the text, the pass takes slices between the cursor and the
next replaced placeholder; none of them is reversed or cuts a character (`Spliced.of_mem_slices`).
-/

namespace StaticSite

/-! ## What is asked for -/

/-- The placeholder begins inside of another one. -/
def Occurrence.beginsInside (o outer : Occurrence) : Bool :=
  outer.start < o.start && o.start < outer.stop

section Asked

variable {resolve : OccurrenceResolver} {os : List Occurrence}

/-- What is replaced is what is asked for and has a value. -/
theorem replacements_eq_filterMap (cursor : Nat) :
    replacements resolve cursor os =
      (asked resolve cursor os).filterMap fun o => (resolve o).map fun value => (o, value) := by
  induction os generalizing cursor with
  | nil => rfl
  | cons o os ih =>
    rw [replacements, asked]
    by_cases hlt : o.start < cursor
    · rw [if_pos hlt, if_pos hlt, ih]
    · rw [if_neg hlt, if_neg hlt]
      cases hvalue : resolve o with
      | none =>
        simp only [hvalue, ih, List.filterMap_cons, Option.map_none]
      | some value =>
        simp only [hvalue, ih, List.filterMap_cons, Option.map_some]

/-- The resolver is asked for the placeholders behind the cursor that do not begin inside of a
replaced one. -/
theorem asked_eq_filter (hos : os.Pairwise fun o p => o.start < p.start) (cursor : Nat) :
    asked resolve cursor os =
      os.filter fun o => !decide (o.start < cursor) &&
        (replacements resolve cursor os).all fun r => !o.beginsInside r.1 := by
  induction os generalizing cursor with
  | nil => rfl
  | cons o os ih =>
    obtain ⟨hfirst, hos⟩ := List.pairwise_cons.mp hos
    have hlater : ∀ (next : Nat), ∀ r ∈ replacements resolve next os,
        o.beginsInside r.1 = false := by
      intro next r hr
      have hlt := hfirst r.1 (mem_of_mem_replacements hr)
      simp only [Occurrence.beginsInside, Bool.and_eq_false_iff, decide_eq_false_iff_not]
      omega
    rw [asked, replacements, List.filter_cons]
    by_cases hlt : o.start < cursor
    · rw [if_pos hlt, if_pos hlt, ih hos, if_neg (by simp [hlt])]
    · rw [if_neg hlt, if_neg hlt]
      cases hvalue : resolve o with
      | none =>
        have hkept : (replacements resolve cursor os).all (fun r => !o.beginsInside r.1) = true :=
          List.all_eq_true.mpr fun r hr => by rw [hlater cursor r hr]; rfl
        simp only [hkept, decide_eq_false hlt, Bool.not_false, Bool.and_true, if_true, ih hos]
      | some value =>
        have hself : o.beginsInside o = false := by
          simp [Occurrence.beginsInside]
        have hkept : (replacements resolve o.stop os).all (fun r => !o.beginsInside r.1) = true :=
          List.all_eq_true.mpr fun r hr => by rw [hlater o.stop r hr]; rfl
        simp only [List.all_cons, hself, hkept, decide_eq_false hlt, Bool.not_false, Bool.and_true,
          if_true, ih hos]
        congr 1
        refine List.filter_congr fun p hp => ?_
        -- behind the cursor, a placeholder begins inside of `o` if it begins before its end
        have hbehind := hfirst p hp
        have hcursor : decide (p.start < cursor) = false := decide_eq_false (by omega)
        have hinside : p.beginsInside o = decide (p.start < o.stop) := by
          simp [Occurrence.beginsInside, hbehind]
        rw [hcursor, hinside, Bool.not_false, Bool.true_and]

end Asked

/-! ## Slices -/

/-- The slices that are kept of a text of `size` bytes: from the cursor to each replaced
placeholder, and from the last one to the end. -/
def slices (size cursor : Nat) : List (Occurrence × Text) → List (Nat × Nat)
  | [] => [(cursor, size)]
  | (o, _) :: rs => (cursor, o.start) :: slices size o.stop rs

/-- A range of bytes that can be cut out of a text. -/
structure IsSlice (t : Text) (range : Nat × Nat) : Prop where
  /-- It does not end before it begins. -/
  ordered : range.1 ≤ range.2
  /-- It does not reach past the end of the text. -/
  le_size : range.2 ≤ Text.utf8Size t
  /-- It begins between two characters. -/
  boundary_left : t.IsBoundary range.1
  /-- It ends between two characters. -/
  boundary_right : t.IsBoundary range.2

theorem isSlice_of_split (before slice after : Text) :
    IsSlice (before ++ (slice ++ after))
      (Text.utf8Size before, Text.utf8Size before + Text.utf8Size slice) where
  ordered := Nat.le_add_right _ _
  le_size := by
    simp only [Text.utf8Size_append]
    omega
  boundary_left := ⟨before, slice ++ after, rfl, rfl⟩
  boundary_right :=
    ⟨before ++ slice, after, (List.append_assoc _ _ _).symm, Text.utf8Size_append _ _⟩

theorem Spliced.of_mem_slices {cursor : Nat} {t out : Text} {rs : List (Occurrence × Text)}
    (h : Spliced cursor t rs out) {before : Text} (hbefore : Text.utf8Size before = cursor)
    {range : Nat × Nat} (hrange : range ∈ slices (Text.utf8Size (before ++ t)) cursor rs) :
    IsSlice (before ++ t) range := by
  induction h generalizing before with
  | last cursor t =>
    subst hbefore
    obtain rfl := List.mem_singleton.mp hrange
    have hlast := isSlice_of_split before t []
    rwa [List.append_nil, ← Text.utf8Size_append] at hlast
  | @next cursor slice behind value out o rs hstart h ih =>
    rcases List.mem_cons.mp hrange with rfl | hrange
    · have hfirst := isSlice_of_split before slice (o.placeholder.raw ++ behind)
      rwa [hbefore, ← hstart] at hfirst
    · have hstop : Text.utf8Size (before ++ (slice ++ o.placeholder.raw)) = o.stop := by
        simp only [Occurrence.stop, hstart, Text.utf8Size_append, hbefore, Nat.add_assoc]
      have hsame : before ++ (slice ++ (o.placeholder.raw ++ behind)) =
          before ++ (slice ++ o.placeholder.raw) ++ behind := by
        simp only [List.append_assoc]
      rw [hsame] at hrange ⊢
      exact ih hstop hrange

/-! ## The pass -/

/-- A pass of substitution reads a text from left to right. It asks for the placeholders that do not
begin inside of a replaced one, replaces those of them that have a value, gives the text back if no
value differs from what it replaces, and takes nothing but slices of the text. -/
theorem substituteOccurrences_leftToRight (resolve : OccurrenceResolver) (t : Text) :
    substituteOccurrences resolve t = rewriteFrom resolve 0 t ∧
      asked resolve 0 (scan t) = (scan t).filter (fun o =>
        (replacements resolve 0 (scan t)).all fun r => !o.beginsInside r.1) ∧
      replacements resolve 0 (scan t) = (asked resolve 0 (scan t)).filterMap (fun o =>
        (resolve o).map fun value => (o, value)) ∧
      ((∀ o ∈ asked resolve 0 (scan t), ∀ value, resolve o = some value →
        value = o.placeholder.raw) → substituteOccurrences resolve t = t) ∧
      ∀ range ∈ slices (Text.utf8Size t) 0 (replacements resolve 0 (scan t)), IsSlice t range := by
  have hspliced := spliced_substituteOccurrences resolve t
  refine ⟨substituteOccurrences_eq resolve t, ?_, replacements_eq_filterMap 0, ?_, ?_⟩
  · have hordered := pairwise_start_scanFrom 0 t
    rw [← scan_eq] at hordered
    have hfilter : asked resolve 0 (scan t) = _ := asked_eq_filter hordered 0
    simpa only [Nat.not_lt_zero, decide_false, Bool.not_false, Bool.true_and] using hfilter
  · intro hvalues
    rw [substituteOccurrences_eq]
    refine hspliced.eq_self fun r hr => ?_
    rw [replacements_eq_filterMap] at hr
    obtain ⟨o, ho, hr⟩ := List.mem_filterMap.mp hr
    obtain ⟨value, hvalue, rfl⟩ := Option.map_eq_some_iff.mp hr
    exact hvalues o ho value hvalue
  · intro range hrange
    exact hspliced.of_mem_slices Text.utf8Size_nil hrange

/-- Includes are replaced by themselves, and one begins inside of a variable that has no value. -/
theorem substituteOccurrences_leftToRight_unchanged :
    let resolve : OccurrenceResolver := fun o =>
      if o.placeholder.sigil = .template then some o.placeholder.raw else none
    let t : Text := "é@{a ${b @{c}}}".toList
    (∀ o ∈ asked resolve 0 (scan t), ∀ value, resolve o = some value →
      value = o.placeholder.raw) ∧ substituteOccurrences resolve t = t := by
  intro resolve t
  have hvalues : ∀ o ∈ asked resolve 0 (scan t), ∀ value, resolve o = some value →
      value = o.placeholder.raw := by
    intro o _ value hvalue
    simp only [resolve] at hvalue
    split at hvalue
    · exact (Option.some.inj hvalue).symm
    · cases hvalue
  exact ⟨hvalues, (substituteOccurrences_leftToRight resolve t).2.2.2.1 hvalues⟩

end StaticSite
