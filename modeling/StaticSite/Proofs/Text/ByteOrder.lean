import Mathlib.Tactic.SplitIfs
import StaticSite.Proofs.Text.Bytes
import StaticSite.Text.Order

/-!
# The order of texts and the order of their bytes

Texts are ordered by the code points of their characters. UTF-8 is made so that this is the order of
the bytes as well (`bytes_lt_bytes_iff`): of two characters the one with the greater code point has
the greater byte where their bytes first differ, and neither begins with the bytes of the other.
-/

namespace StaticSite.Text

/-- The bytes of the UTF-8 form of a text. -/
def bytes (t : Text) : List UInt8 :=
  (encode t).data.toList

@[simp]
theorem bytes_nil : bytes [] = [] := rfl

theorem bytes_cons (c : Char) (t : Text) : bytes (c :: t) = String.utf8EncodeChar c ++ bytes t := by
  have happend : encode (c :: t) = encode [c] ++ encode t := encode_append [c] t
  unfold bytes
  rw [happend, ByteArray.data_append, Array.toList_append, toList_encode_singleton]

/-! ## One character -/

/-- A byte behind the first one holds six bits of the code point. -/
theorem sixBits_lt {m n : Nat} (h : m < n) :
    m / 64 < n / 64 ∨ m / 64 = n / 64 ∧ m % 64 < n % 64 := by
  omega

/-- Code points differ first in the byte of the highest bits in which they differ. -/
theorem bits_lt {m n : Nat} (h : m < n) : m / 262144 < n / 262144 ∨
    m / 262144 = n / 262144 ∧ (m / 4096 % 64 < n / 4096 % 64 ∨
      m / 4096 % 64 = n / 4096 % 64 ∧ (m / 64 % 64 < n / 64 % 64 ∨
        m / 64 % 64 = n / 64 % 64 ∧ m % 64 < n % 64)) := by
  have hdiv (k : Nat) : k / 4096 = k / 64 / 64 ∧ k / 262144 = k / 64 / 64 / 64 := by omega
  rw [(hdiv m).1, (hdiv n).1, (hdiv m).2, (hdiv n).2]
  rcases sixBits_lt h with hthird | ⟨hthird, hlast⟩
  · rcases sixBits_lt hthird with hsecond | ⟨hsecond, hlast⟩
    · have hfirst := sixBits_lt hsecond
      omega
    · omega
  · omega

theorem utf8EncodeChar_append_lt {c d : Char} (h : c < d) (s t : List UInt8) :
    String.utf8EncodeChar c ++ s < String.utf8EncodeChar d ++ t := by
  have hcodes : c.val.toNat < d.val.toNat := UInt32.lt_iff_toNat_lt.mp (Char.lt_def.mp h)
  have hmax : d.val.toNat ≤ 0x10FFFF := by
    have hvalid := d.valid
    unfold UInt32.isValidChar Nat.isValidChar at hvalid
    omega
  have hbits := bits_lt hcodes
  unfold String.utf8EncodeChar
  generalize c.val.toNat = m at *
  generalize d.val.toNat = n at *
  -- nothing is cut off: the highest bits fit in the first of four bytes, and all sums in a byte
  have htop (k : Nat) (hk : k ≤ 0x10FFFF) : k / 262144 % 8 = k / 262144 := by omega
  have hm := htop m (by omega)
  have hn := htop n hmax
  have hbyte (k : Nat) (hk : k < 256) : k % 2 ^ 8 = k := Nat.mod_eq_of_lt hk
  simp only
  split_ifs <;>
    simp only [List.cons_append, List.nil_append, List.cons_lt_cons_iff, UInt8.lt_iff_toNat_lt,
      ← UInt8.toNat_inj, UInt8.toNat_ofNat'] <;>
    simp (disch := omega) only [hbyte, hm, hn] <;>
    omega

/-! ## Texts -/

theorem bytes_lt_of_lt {s t : Text} (h : s < t) : bytes s < bytes t := by
  induction s generalizing t with
  | nil =>
    cases t with
    | nil => exact absurd h (OrderedKey.lt_irrefl _)
    | cons d t =>
      rw [bytes_nil, bytes_cons]
      cases hbytes : String.utf8EncodeChar d with
      | nil => exact absurd hbytes String.utf8EncodeChar_ne_nil
      | cons b bs => exact List.nil_lt_cons _ _
  | cons c s ih =>
    cases t with
    | nil => exact absurd h (List.not_lt_nil _)
    | cons d t =>
      rw [bytes_cons, bytes_cons]
      rcases List.cons_lt_cons_iff.mp h with hlt | ⟨rfl, hlt⟩
      · exact utf8EncodeChar_append_lt hlt _ _
      · exact List.append_left_lt (ih hlt)

/-- Texts are in the order of their bytes. -/
theorem bytes_lt_bytes_iff {s t : Text} : bytes s < bytes t ↔ s < t := by
  constructor
  · intro h
    rcases OrderedKey.lt_trichotomy s t with hlt | rfl | hlt
    · exact hlt
    · exact absurd h (Std.lt_irrefl)
    · exact absurd (Std.lt_trans h (bytes_lt_of_lt hlt)) Std.lt_irrefl
  · exact bytes_lt_of_lt

end StaticSite.Text
