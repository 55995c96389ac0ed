import Mathlib.Data.Nat.Digits.Defs
import StaticSite.Proofs.Placeholder.ListBlock

/-!
# The classification of placeholders

A placeholder can be a list start, a list end or a plain name. Which one it is can be said without a
reader: a list start is the word `list:`, a name of ASCII letters, a colon and a number in decimal
digits below `2 ^ 64`, leading zeros included (`Placeholder.listStart?_eq_some_iff`). No placeholder
is two of these, and none of them holds another placeholder of its text
(`classification_exact`).
-/

namespace StaticSite

open Placeholder

/-! ## Decimal digits -/

namespace Text

/-- The character is one of the ten decimal digits. -/
def IsDecimalDigit (c : Char) : Prop :=
  '0' ≤ c ∧ c ≤ '9'

/-- The character is an ASCII letter. -/
def IsLetter (c : Char) : Prop :=
  'a' ≤ c ∧ c ≤ 'z' ∨ 'A' ≤ c ∧ c ≤ 'Z'

theorem isDigit_iff {c : Char} : c.isDigit = true ↔ IsDecimalDigit c := by
  unfold Char.isDigit IsDecimalDigit
  rw [Bool.and_eq_true, decide_eq_true_iff, decide_eq_true_iff]
  rfl

theorem isAlpha_iff {c : Char} : c.isAlpha = true ↔ IsLetter c := by
  unfold Char.isAlpha Char.isUpper Char.isLower IsLetter
  simp only [Bool.or_eq_true, Bool.and_eq_true, decide_eq_true_iff]
  exact or_comm

/-- A text writes a number in decimal digits, the last of which are the units. Zeros in front do
not matter. -/
structure WritesNumber (digits : Text) (n : Nat) : Prop where
  /-- There is a digit. -/
  ne_nil : digits ≠ []
  /-- There are only digits. -/
  isDecimalDigit : ∀ c ∈ digits, IsDecimalDigit c
  /-- The digits have the value of the number. -/
  ofDigits_eq : Nat.ofDigits 10 (digits.reverse.map fun c => c.toNat - '0'.toNat) = n

/-- Reading digits from the left shifts what was read by one place for each of them. -/
theorem foldl_digits (digits : Text) (start : Nat) :
    digits.foldl (fun n c => 10 * n + (c.toNat - '0'.toNat)) start =
      Nat.ofDigits 10 ((digits.reverse.map fun c => c.toNat - '0'.toNat) ++ [start]) := by
  induction digits generalizing start with
  | nil => exact Nat.ofDigits_singleton.symm
  | cons c digits ih =>
    rw [List.foldl_cons, ih, List.reverse_cons, List.map_append, Nat.ofDigits_append,
      Nat.ofDigits_append, Nat.ofDigits_append]
    simp only [List.map_cons, List.map_nil, Nat.ofDigits_singleton, List.length_append,
      List.length_singleton, pow_succ]
    ring

theorem toNat?_eq_some_iff {t : Text} {n : Nat} : toNat? t = some n ↔ WritesNumber t n := by
  have hvalue : t.foldl (fun n c => 10 * n + (c.toNat - '0'.toNat)) 0 =
      Nat.ofDigits 10 (t.reverse.map fun c => c.toNat - '0'.toNat) := by
    rw [foldl_digits, Nat.ofDigits_append, Nat.ofDigits_singleton, Nat.mul_zero, Nat.add_zero]
  unfold toNat?
  rw [hvalue]
  constructor
  · intro h
    split at h
    · cases h
    · next hno =>
      simp only [Bool.or_eq_true, not_or, Bool.not_eq_true, Bool.not_eq_false'] at hno
      obtain ⟨hempty, hall⟩ := hno
      refine ⟨by simpa using hempty, fun c hc => ?_, Option.some.inj h⟩
      exact isDigit_iff.mp (List.all_eq_true.mp hall c hc)
  · rintro ⟨hne, hdigits, rfl⟩
    have hall : t.all Char.isDigit = true :=
      List.all_eq_true.mpr fun c hc => isDigit_iff.mpr (hdigits c hc)
    rw [if_neg (by simp [hne, hall])]

end Text

/-! ## List starts -/

namespace Placeholder

/-- A placeholder starts a list of at most `count` pages of a group. -/
structure StartsList (p : Placeholder) (group : Text) (count : Nat) : Prop where
  /-- It is written with a number sign. -/
  sigil_eq : p.sigil = .post
  /-- The group and the number stand behind the word, with a colon between them. -/
  exists_digits : ∃ digits, p.body = "list:".toList ++ group ++ ':' :: digits ∧
    Text.WritesNumber digits count
  /-- The group has a name. -/
  group_ne_nil : group ≠ []
  /-- The name of the group is made of ASCII letters. -/
  isLetter : ∀ c ∈ group, Text.IsLetter c
  /-- The number fits into 64 bits. -/
  count_lt : count < 2 ^ 64

theorem listStart?_eq_some_iff {p : Placeholder} {group : Text} {count : Nat} :
    p.listStart? = some ⟨group, count⟩ ↔ p.StartsList group count := by
  constructor
  · intro h
    obtain ⟨hsigil, hne, hletters, hlt, digits, hbody, hnumber⟩ := eq_of_listStart? h
    refine ⟨hsigil, ⟨digits, ?_, Text.toNat?_eq_some_iff.mp hnumber⟩, hne, fun c hc => ?_, hlt⟩
    · rw [hbody, List.append_assoc]
      rfl
    · exact Text.isAlpha_iff.mp (hletters c hc)
  · rintro ⟨hsigil, ⟨digits, hbody, hnumber⟩, hne, hletters, hlt⟩
    have hrest : Text.dropStart? listWord p.body = some (group ++ ':' :: digits) := by
      rw [Text.dropStart?_eq_some_iff, hbody, List.append_assoc]
      rfl
    have hcolon : ':' ∉ group := by
      intro hmem
      rcases hletters _ hmem with h | h
      · exact absurd h (by decide)
      · exact absurd h (by decide)
    have hall : group.all Char.isAlpha = true :=
      List.all_eq_true.mpr fun c hc => Text.isAlpha_iff.mpr (hletters c hc)
    unfold listStart?
    rw [if_pos hsigil, hrest]
    dsimp only
    rw [Text.splitOnce?_append_cons hcolon]
    dsimp only
    rw [if_neg (by simp [hne, hall]), Text.toNat?_eq_some_iff.mpr hnumber]
    exact if_pos hlt

/-- The greatest number that fits, behind zeros. -/
example : listStart? ⟨.post, "list:a:0018446744073709551615".toList⟩ =
    some ⟨"a".toList, 18446744073709551615⟩ := by decide

/-- The number after it. -/
example : listStart? ⟨.post, "list:a:18446744073709551616".toList⟩ = none := by decide

/-! ## One kind at most -/

theorem identifier?_eq_none_of_colon {p : Placeholder} (h : ':' ∈ p.body) :
    p.identifier? = none := by
  have hno : isIdentifier p.body = false := by
    rw [Bool.eq_false_iff]
    intro hname
    have hall := List.all_eq_true.mp (Bool.and_eq_true_iff.mp hname).2 ':' h
    exact absurd hall (by decide)
  unfold identifier?
  rw [hno]
  rfl

theorem identifier?_of_listStart? {p : Placeholder} {s : ListStart}
    (h : p.listStart? = some s) : p.identifier? = none := by
  obtain ⟨-, -, -, -, digits, hbody, -⟩ := eq_of_listStart? h
  refine identifier?_eq_none_of_colon ?_
  rw [hbody]
  exact List.mem_append_left _ (by decide)

theorem identifier?_of_isListEnd {p : Placeholder} (h : p.isListEnd = true) :
    p.identifier? = none := by
  rw [isListEnd_iff.mp h]
  decide

theorem count_kinds_le (p : Placeholder) :
    [p.listStart?.isSome, p.isListEnd, p.identifier?.isSome].count true ≤ 1 := by
  cases hstart : p.listStart? with
  | some s =>
    rw [not_isListEnd_of_listStart? hstart, identifier?_of_listStart? hstart]
    exact Nat.le_refl 1
  | none =>
    cases hend : p.isListEnd with
    | true =>
      rw [identifier?_of_isListEnd hend]
      decide
    | false => cases p.identifier?.isSome <;> decide

/-! ## What a macro holds -/

/-- The placeholder is a list start, a list end, or has a name between its braces. -/
def IsMacro (p : Placeholder) : Prop :=
  p.listStart?.isSome ∨ p.isListEnd ∨ p.identifier?.isSome

/-- A name holds nothing that could end it or begin another placeholder. -/
theorem plain_of_isIdentifier {p : Placeholder} (h : isIdentifier p.body = true) : p.Plain where
  isBody := by
    intro c hc
    have hchar := List.all_eq_true.mp (Bool.and_eq_true_iff.mp h).2 c hc
    constructor
    · rintro rfl
      exact absurd hchar (by decide)
    · rintro rfl
      exact absurd hchar (by decide)
  sigilFree := by
    intro c hc
    have hchar := List.all_eq_true.mp (Bool.and_eq_true_iff.mp h).2 c hc
    cases hs : isSigil c with
    | false => rfl
    | true =>
      obtain ⟨s, rfl⟩ := exists_char_of_isSigil hs
      cases s <;> exact absurd hchar (by decide)

theorem IsMacro.plain {p : Placeholder} (h : p.IsMacro) : p.Plain := by
  rcases h with hstart | hend | hname
  · obtain ⟨s, hs⟩ := Option.isSome_iff_exists.mp hstart
    exact plain_of_listStart? hs
  · rw [isListEnd_iff.mp hend]
    exact plain_listEnd
  · refine plain_of_isIdentifier ?_
    unfold identifier? at hname
    split at hname
    · assumption
    · cases hname

end Placeholder

/-- Where a placeholder without inner sigils stands, no other one begins. -/
theorem eq_or_outside_of_plain {t : Text} {o other : Occurrence} (ho : o ∈ scan t)
    (hplain : o.placeholder.Plain) (hother : other ∈ scan t) :
    other = o ∨ other.start < o.start ∨ o.stop ≤ other.start := by
  obtain ⟨before, rest, rfl, -, hstart⟩ := mem_scan_iff.mp ho
  obtain ⟨inner, hscan, hinner⟩ :=
    exists_scanFrom_append 0 before (o.placeholder.raw ++ rest)
  rw [scan_eq, hscan, Nat.zero_add, scanFrom_raw_append hplain, ← hstart] at hother
  rw [Nat.zero_add, ← hstart] at hinner
  rcases List.mem_append.mp hother with hearlier | hhere
  · exact .inr (.inl (hinner other hearlier))
  · rcases List.mem_cons.mp hhere with hsame | hlater
    · exact .inl hsame
    · exact .inr (.inr (le_start_of_mem_scanFrom hlater))

/-! ## The classification -/

/-- A placeholder of a text is a list start exactly if it is written as one, with the group and the
number that it is written with. It is at most one of list start, list end and name, and if it is
one of these, no other placeholder of the text begins in it. -/
theorem classification_exact {t : Text} {o : Occurrence} (ho : o ∈ scan t) :
    (∀ group count, o.placeholder.listStart? = some ⟨group, count⟩ ↔
      o.placeholder.StartsList group count) ∧
    [o.placeholder.listStart?.isSome, o.placeholder.isListEnd,
      o.placeholder.identifier?.isSome].count true ≤ 1 ∧
    (o.placeholder.IsMacro →
      ∀ other ∈ scan t, o.start ≤ other.start → other.start < o.stop → other = o) := by
  refine ⟨fun group count => listStart?_eq_some_iff, count_kinds_le _, ?_⟩
  intro hmacro other hother hle hlt
  rcases eq_or_outside_of_plain ho hmacro.plain hother with hsame | hbefore | hbehind
  · exact hsame
  · exact absurd hle (Nat.not_le_of_lt hbefore)
  · exact absurd hlt (Nat.not_lt_of_le hbehind)

/-- A list start with zeros before its number, inside of another placeholder. -/
theorem classification_exact_nested :
    let t : Text := "@\x7bé#\x7blist:blog:012\x7d\x7d".toList
    let o : Occurrence := ⟨⟨.post, "list:blog:012".toList⟩, 4⟩
    let outer : Occurrence := ⟨⟨.value, "é#\x7blist:blog:012".toList⟩, 0⟩
    o ∈ scan t ∧ outer ∈ scan t ∧ o.placeholder.StartsList "blog".toList 12 ∧
      ¬ (o.start ≤ outer.start ∧ outer.start < o.stop) := by
  intro t o outer
  have ho : o ∈ scan t := by decide
  have houter : outer ∈ scan t := by decide
  obtain ⟨hexact, -, hholds⟩ := classification_exact ho
  have hlist : o.placeholder.listStart? = some ⟨"blog".toList, 12⟩ := by decide
  refine ⟨ho, houter, (hexact _ _).mp hlist, ?_⟩
  rintro ⟨hle, hlt⟩
  exact absurd (hholds (.inl (by rw [hlist]; rfl)) outer houter hle hlt) (by decide)

end StaticSite
