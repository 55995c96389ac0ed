import StaticSite.Placeholder.Substitute
import StaticSite.Proofs.Placeholder.Scan
import StaticSite.Proofs.Text.Bytes

/-!
# Substitution, from left to right

`substitute` scans a text as a whole and then splices values into it. `rewriteFrom` reads the text
from left to right instead: where a placeholder begins that has a value, the value stands and
reading goes on behind the placeholder; everywhere else the character stands. The two agree for
every resolver, also for one that goes by where a placeholder occurs (`substituteOccurrences_eq`).

The link is `Spliced`, which takes a text apart into the slices that are kept and the placeholders
that are replaced. It also says where the slices lie (`Spliced.of_mem_slices`).

A resolver that reads a placeholder alike wherever it occurs does not need to know where the text
begins (`rewriteFrom_anywhere`), so the equations of `substitute` have no offsets.
-/

namespace StaticSite

/-! ## Reading from left to right -/

theorem Placeholder.length_lt_of_atStart? {t rest : Text} {p : Placeholder}
    (h : atStart? t = some (p, rest)) : rest.length < t.length := by
  obtain ⟨-, rfl⟩ := atStart?_eq_some_iff.mp h
  rw [List.length_append]
  exact Nat.lt_add_of_pos_left (Nat.succ_pos _)

/-- Fills a text that begins at byte offset `offset` of the whole, from left to right. -/
def rewriteFrom (resolve : OccurrenceResolver) (offset : Nat) : Text → Text
  | [] => []
  | c :: t =>
    match _h : Placeholder.atStart? (c :: t) with
    | none => c :: rewriteFrom resolve (offset + c.utf8Size) t
    | some (p, rest) =>
      match resolve ⟨p, offset⟩ with
      | none => c :: rewriteFrom resolve (offset + c.utf8Size) t
      | some value => value ++ rewriteFrom resolve (offset + Text.utf8Size p.raw) rest
termination_by t => t.length
decreasing_by
  · exact Nat.lt_succ_self _
  · exact Nat.lt_succ_self _
  · exact Placeholder.length_lt_of_atStart? ‹_›

section Equations

variable {resolve : OccurrenceResolver} {offset : Nat} {c : Char} {t rest : Text} {p : Placeholder}

theorem rewriteFrom_cons_none (h : Placeholder.atStart? (c :: t) = none) :
    rewriteFrom resolve offset (c :: t) = c :: rewriteFrom resolve (offset + c.utf8Size) t := by
  rw [rewriteFrom]
  split
  · rfl
  · next h' =>
    rw [h] at h'
    cases h'

theorem rewriteFrom_cons_kept (h : Placeholder.atStart? (c :: t) = some (p, rest))
    (hp : resolve ⟨p, offset⟩ = none) :
    rewriteFrom resolve offset (c :: t) = c :: rewriteFrom resolve (offset + c.utf8Size) t := by
  rw [rewriteFrom]
  split
  · rfl
  · next h' =>
    rw [h] at h'
    cases h'
    rw [hp]

theorem rewriteFrom_cons_filled {value : Text} (h : Placeholder.atStart? (c :: t) = some (p, rest))
    (hp : resolve ⟨p, offset⟩ = some value) :
    rewriteFrom resolve offset (c :: t) =
      value ++ rewriteFrom resolve (offset + Text.utf8Size p.raw) rest := by
  rw [rewriteFrom]
  split
  · next h' =>
    rw [h] at h'
    cases h'
  · next h' =>
    rw [h] at h'
    cases h'
    rw [hp]

end Equations

/-- A resolver that reads a placeholder alike wherever it occurs reads a text alike wherever it
begins. -/
theorem rewriteFrom_anywhere (resolve : Resolver) (a b : Nat) (t : Text) :
    rewriteFrom resolve.anywhere a t = rewriteFrom resolve.anywhere b t := by
  fun_induction rewriteFrom resolve.anywhere a t generalizing b with
  | case1 => rw [rewriteFrom]
  | case2 a c t hp ih => rw [rewriteFrom_cons_none hp, ih]
  | case3 a c t p rest hp hvalue ih =>
    have hb : resolve.anywhere ⟨p, b⟩ = none := hvalue
    rw [rewriteFrom_cons_kept hp hb, ih]
  | case4 a c t p rest hp value hvalue ih =>
    have hb : resolve.anywhere ⟨p, b⟩ = some value := hvalue
    rw [rewriteFrom_cons_filled hp hb, ih]

/-! ## What is replaced -/

/-- Occurrences that begin before the cursor are passed over. -/
theorem replacements_append_of_lt (resolve : OccurrenceResolver) {cursor : Nat}
    {inner : List Occurrence} (h : ∀ o ∈ inner, o.start < cursor) (os : List Occurrence) :
    replacements resolve cursor (inner ++ os) = replacements resolve cursor os := by
  induction inner with
  | nil => rfl
  | cons o inner ih =>
    rw [List.cons_append, replacements, if_pos (h o List.mem_cons_self)]
    exact ih fun o ho => h o (List.mem_cons_of_mem _ ho)

/-- A cursor that no occurrence begins before does not matter. -/
theorem replacements_eq_of_le (resolve : OccurrenceResolver) {a b : Nat} {os : List Occurrence}
    (ha : ∀ o ∈ os, a ≤ o.start) (hb : ∀ o ∈ os, b ≤ o.start) :
    replacements resolve a os = replacements resolve b os := by
  induction os with
  | nil => rfl
  | cons o os ih =>
    have hao := ha o List.mem_cons_self
    have hbo := hb o List.mem_cons_self
    rw [replacements, replacements, if_neg (by omega), if_neg (by omega)]
    cases resolve o with
    | some value => rfl
    | none =>
      exact ih (fun o ho => ha o (List.mem_cons_of_mem _ ho))
        fun o ho => hb o (List.mem_cons_of_mem _ ho)

/-- What is replaced is among the occurrences. -/
theorem mem_of_mem_replacements {resolve : OccurrenceResolver} {cursor : Nat}
    {os : List Occurrence} {r : Occurrence × Text} (h : r ∈ replacements resolve cursor os) :
    r.1 ∈ os := by
  induction os generalizing cursor with
  | nil => simp [replacements] at h
  | cons o os ih =>
    rw [replacements] at h
    split at h
    · exact List.mem_cons_of_mem _ (ih h)
    · split at h
      · rcases List.mem_cons.mp h with rfl | h
        · exact List.mem_cons_self
        · exact List.mem_cons_of_mem _ (ih h)
      · exact List.mem_cons_of_mem _ (ih h)

theorem replacements_congr {first second : OccurrenceResolver} {os : List Occurrence}
    (h : ∀ o ∈ os, first o = second o) (cursor : Nat) :
    replacements first cursor os = replacements second cursor os := by
  induction os generalizing cursor with
  | nil => rfl
  | cons o os ih =>
    have hlater := fun o ho => h o (List.mem_cons_of_mem _ ho)
    rw [replacements, replacements, h o List.mem_cons_self]
    by_cases hlt : o.start < cursor
    · rw [if_pos hlt, if_pos hlt, ih hlater]
    · rw [if_neg hlt, if_neg hlt]
      cases second o with
      | none => exact ih hlater cursor
      | some value => exact congrArg _ (ih hlater o.stop)

/-- Two resolvers that read the placeholders of a text alike fill it in alike. -/
theorem substitute_congr {first second : Resolver} {t : Text}
    (h : ∀ p ∈ placeholders t, first p = second p) :
    substitute first t = substitute second t := by
  have hreplaced : replacements first.anywhere 0 (scan t) =
      replacements second.anywhere 0 (scan t) :=
    replacements_congr (fun o ho => h _ (List.mem_map_of_mem ho)) 0
  rw [substitute, substitute, substituteOccurrences, substituteOccurrences, hreplaced]

/-- A character that nothing is replaced at does not matter for what is replaced behind it. -/
theorem replacements_scanFrom_tail (resolve : OccurrenceResolver) (offset : Nat) (c : Char)
    (t : Text) :
    replacements resolve offset (scanFrom (offset + c.utf8Size) t) =
      replacements resolve (offset + c.utf8Size) (scanFrom (offset + c.utf8Size) t) :=
  replacements_eq_of_le resolve
    (fun _ ho => Nat.le_trans (Nat.le_add_right _ _) (le_start_of_mem_scanFrom ho))
    fun _ ho => le_start_of_mem_scanFrom ho

/-! ## Slices and values -/

/-- A text that begins at byte offset `cursor` is taken apart into slices and placeholders; the
slices with values in the place of the placeholders make up another text. -/
inductive Spliced : (cursor : Nat) → Text → List (Occurrence × Text) → Text → Prop
  /-- Behind the last placeholder that is replaced, all is kept. -/
  | last (cursor : Nat) (t : Text) : Spliced cursor t [] t
  /-- A slice that is kept and a placeholder that is replaced. -/
  | next {cursor : Nat} {slice behind value out : Text} {o : Occurrence}
      {rs : List (Occurrence × Text)} (hstart : o.start = cursor + Text.utf8Size slice)
      (h : Spliced o.stop behind rs out) :
      Spliced cursor (slice ++ (o.placeholder.raw ++ behind)) ((o, value) :: rs)
        (slice ++ (value ++ out))

namespace Spliced

variable {cursor : Nat} {t out : Text} {rs : List (Occurrence × Text)}

theorem cons {c : Char} (h : Spliced (cursor + c.utf8Size) t rs out) :
    Spliced cursor (c :: t) rs (c :: out) := by
  cases h with
  | last => exact .last cursor _
  | @next _ slice behind value out o rs hstart h =>
    have hslice : o.start = cursor + Text.utf8Size (c :: slice) := by
      rw [hstart, Text.utf8Size_cons, Nat.add_assoc]
    show Spliced cursor ((c :: slice) ++ _) _ ((c :: slice) ++ _)
    exact .next hslice h

theorem splice_eq (h : Spliced cursor t rs out) : splice cursor t rs = out := by
  induction h with
  | last => rfl
  | @next cursor slice behind value out o rs hstart _ ih =>
    have hstop : o.stop - cursor = Text.utf8Size (slice ++ o.placeholder.raw) := by
      rw [Occurrence.stop, hstart, Text.utf8Size_append, Nat.add_assoc, Nat.add_sub_cancel_left]
    rw [splice, hstop, hstart, Nat.add_sub_cancel_left, Text.takeBytes_append, ← List.append_assoc,
      Text.dropBytes_append, ih, List.append_assoc]

/-- Values that are what they replace change nothing. -/
theorem eq_self (h : Spliced cursor t rs out) (hvalues : ∀ r ∈ rs, r.2 = r.1.placeholder.raw) :
    out = t := by
  induction h with
  | last => rfl
  | @next _ _ _ value _ o _ _ _ ih =>
    obtain ⟨hvalue, hlater⟩ := List.forall_mem_cons.mp hvalues
    rw [ih hlater, show value = o.placeholder.raw from hvalue]

end Spliced

/-- Reading from left to right keeps slices of the text and replaces what is picked of its
placeholders. -/
theorem spliced_rewriteFrom (resolve : OccurrenceResolver) (offset : Nat) (t : Text) :
    Spliced offset t (replacements resolve offset (scanFrom offset t))
      (rewriteFrom resolve offset t) := by
  fun_induction rewriteFrom resolve offset t with
  | case1 offset => exact .last offset []
  | case2 offset c t hp ih =>
    rw [scanFrom_cons_none hp, replacements_scanFrom_tail]
    exact ih.cons
  | case3 offset c t p rest hp hvalue ih =>
    rw [scanFrom_cons_some hp, replacements, if_neg (Nat.lt_irrefl _), hvalue,
      replacements_scanFrom_tail]
    exact ih.cons
  | case4 offset c t p rest hp value hvalue ih =>
    obtain ⟨-, ht⟩ := Placeholder.atStart?_eq_some_iff.mp hp
    obtain ⟨inner, hscan, hinner⟩ := exists_scanFrom_of_atStart? hp offset
    -- the placeholders inside of the replaced one are passed over
    have hreplaced : replacements resolve offset (scanFrom offset (c :: t)) =
        (⟨p, offset⟩, value) :: replacements resolve (offset + Text.utf8Size p.raw)
          (scanFrom (offset + Text.utf8Size p.raw) rest) := by
      rw [hscan, replacements, if_neg (Nat.lt_irrefl _), hvalue]
      exact congrArg _ (replacements_append_of_lt resolve hinner _)
    rw [hreplaced, ht]
    have hstart : offset = offset + Text.utf8Size [] := rfl
    exact Spliced.next (o := ⟨p, offset⟩) hstart ih

theorem spliced_substituteOccurrences (resolve : OccurrenceResolver) (t : Text) :
    Spliced 0 t (replacements resolve 0 (scan t)) (rewriteFrom resolve 0 t) := by
  rw [scan_eq]
  exact spliced_rewriteFrom resolve 0 t

theorem substituteOccurrences_eq (resolve : OccurrenceResolver) (t : Text) :
    substituteOccurrences resolve t = rewriteFrom resolve 0 t :=
  (spliced_substituteOccurrences resolve t).splice_eq

/-! ## The equations -/

theorem substitute_eq (resolve : Resolver) (offset : Nat) (t : Text) :
    substitute resolve t = rewriteFrom resolve.anywhere offset t := by
  rw [substitute, substituteOccurrences_eq, rewriteFrom_anywhere]

@[simp]
theorem substitute_nil (resolve : Resolver) : substitute resolve [] = [] := rfl

/-- A character that begins no placeholder stands. -/
theorem substitute_cons_none (resolve : Resolver) {c : Char} {t : Text}
    (h : Placeholder.atStart? (c :: t) = none) :
    substitute resolve (c :: t) = c :: substitute resolve t := by
  rw [substitute_eq resolve 0, rewriteFrom_cons_none h, ← substitute_eq]

/-- The sigil of a placeholder without a value stands. -/
theorem substitute_cons_kept {resolve : Resolver} {c : Char} {t rest : Text} {p : Placeholder}
    (h : Placeholder.atStart? (c :: t) = some (p, rest)) (hp : resolve p = none) :
    substitute resolve (c :: t) = c :: substitute resolve t := by
  rw [substitute_eq resolve 0, rewriteFrom_cons_kept h hp, ← substitute_eq]

/-- A placeholder with a value is replaced by it, and reading goes on behind the placeholder. -/
theorem substitute_cons_filled {resolve : Resolver} {c : Char} {t rest : Text} {p : Placeholder}
    {value : Text} (h : Placeholder.atStart? (c :: t) = some (p, rest))
    (hp : resolve p = some value) :
    substitute resolve (c :: t) = value ++ substitute resolve rest := by
  rw [substitute_eq resolve 0, rewriteFrom_cons_filled h hp, ← substitute_eq]

/-- A text stands if none of its placeholders has a value. -/
theorem substitute_eq_self {resolve : Resolver} {t : Text}
    (h : ∀ p ∈ placeholders t, resolve p = none) : substitute resolve t = t := by
  induction t with
  | nil => rfl
  | cons c t ih =>
    cases hp : Placeholder.atStart? (c :: t) with
    | none =>
      rw [placeholders_cons_none hp] at h
      rw [substitute_cons_none resolve hp, ih h]
    | some found =>
      rw [placeholders_cons_some hp] at h
      rw [substitute_cons_kept hp (h _ List.mem_cons_self),
        ih fun p hm => h p (List.mem_cons_of_mem _ hm)]

end StaticSite
