import StaticSite.Text.Basic

/-!
# UTF-8

Files hold bytes; texts are read from them as UTF-8 and written to them as UTF-8. `decode?` refuses
bytes that are no UTF-8, `decodeLossy` puts the replacement character in the place of each maximal
ill-formed part. What is written can be read again (`decode?_encode`).
-/

namespace StaticSite.Text

/-- The UTF-8 form of a text. -/
def encode (t : Text) : ByteArray :=
  (String.ofList t).toUTF8

/-- The text whose UTF-8 form the bytes are, if they are one. -/
def decode? (bytes : ByteArray) : Option Text :=
  (String.fromUTF8? bytes).map String.toList

@[simp]
theorem decode?_encode (t : Text) : decode? (encode t) = some t := by
  have h : (String.ofList t).toUTF8.IsValidUTF8 := (String.ofList t).isValidUTF8
  simp only [decode?, encode, String.fromUTF8?, h, ↓reduceDIte, Option.map_some, Option.some.injEq]
  change (String.ofList t).toList = t
  exact String.toList_ofList

/-- What was read is what would be written. -/
theorem encode_of_decode? {bytes : ByteArray} {t : Text} (h : decode? bytes = some t) :
    encode t = bytes := by
  unfold decode? at h
  obtain ⟨s, hs, rfl⟩ := Option.map_eq_some_iff.mp h
  unfold String.fromUTF8? at hs
  split at hs
  · cases hs
    show (String.ofList (String.fromUTF8 bytes _).toList).toByteArray = bytes
    rw [String.ofList_toList]
    rfl
  · cases hs

theorem size_encode (t : Text) : (encode t).size = utf8Size t := by
  show (String.ofList t).toByteArray.size = utf8Size t
  rw [String.toByteArray_ofList]
  induction t with
  | nil => rfl
  | cons c t ih =>
    rw [List.utf8Encode_cons, ByteArray.size_append, ih, List.utf8Encode_singleton, utf8Size_cons]
    simp

/-! ## Reading ill-formed bytes -/

/-- The character that stands for bytes that are no UTF-8. -/
def replacement : Char := '\uFFFD'

/-- The number of continuation bytes that a leading byte asks for, with the range of the first of
them; `none` for a byte that leads nothing. -/
def leadingByte? (b : Nat) : Option (Nat × Nat × Nat) :=
  if 0xC2 ≤ b ∧ b ≤ 0xDF then some (1, 0x80, 0xBF)
  else if b = 0xE0 then some (2, 0xA0, 0xBF)
  else if b = 0xED then some (2, 0x80, 0x9F)
  else if 0xE1 ≤ b ∧ b ≤ 0xEF then some (2, 0x80, 0xBF)
  else if b = 0xF0 then some (3, 0x90, 0xBF)
  else if 0xF1 ≤ b ∧ b ≤ 0xF3 then some (3, 0x80, 0xBF)
  else if b = 0xF4 then some (3, 0x80, 0x8F)
  else none

/-- What the bytes read so far leave open: nothing, or a character with its bits so far, the number
of continuation bytes it lacks, and the range of the next of them. -/
inductive Pending
  | nothing
  | character (bits missing least greatest : Nat)

/-- Reads bytes as UTF-8 with one replacement character for each maximal ill-formed part. A byte
that cannot continue the open character closes it and is then read afresh. -/
def decodeBytes : Pending → List UInt8 → Text
  | .nothing, [] => []
  | .character .., [] => [replacement]
  | .nothing, b :: bytes => start b.toNat bytes
  | .character bits missing least greatest, b :: bytes =>
    let n := b.toNat
    if least ≤ n ∧ n ≤ greatest then
      let bits := bits * 64 + n % 64
      if missing ≤ 1 then Char.ofNat bits :: decodeBytes .nothing bytes
      else decodeBytes (.character bits (missing - 1) 0x80 0xBF) bytes
    else replacement :: start n bytes
where
  /-- Reads on with a byte that begins a character. -/
  start (n : Nat) (bytes : List UInt8) : Text :=
    if n < 0x80 then Char.ofNat n :: decodeBytes .nothing bytes
    else
      match leadingByte? n with
      | none => replacement :: decodeBytes .nothing bytes
      | some (missing, least, greatest) =>
        let bits := if missing = 1 then n % 32 else if missing = 2 then n % 16 else n % 8
        decodeBytes (.character bits missing least greatest) bytes

/-- The text of any bytes, with replacement characters for what is no UTF-8. -/
def decodeLossy (bytes : ByteArray) : Text :=
  decodeBytes .nothing bytes.data.toList

end StaticSite.Text
