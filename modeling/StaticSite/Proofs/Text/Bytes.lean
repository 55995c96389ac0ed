import StaticSite.Text.Utf8

/-!
# The bytes of a text

Positions in a text are byte offsets of its UTF-8 form. An ASCII character is one byte there, and
all bytes of the other characters are greater. So a byte that reads as an ASCII character is one:
it stands at a boundary between characters (`byteAt?_eq_some_iff`).
-/

namespace StaticSite.Text

/-- The byte at an offset of the UTF-8 form of a text. -/
def byteAt? (t : Text) (i : Nat) : Option UInt8 :=
  (encode t).data[i]?

/-- The offset is that of a boundary between two characters of the text, or of one of its ends. -/
def IsBoundary (t : Text) (i : Nat) : Prop :=
  ∃ before after, t = before ++ after ∧ utf8Size before = i

theorem encode_append (s t : Text) : encode (s ++ t) = encode s ++ encode t := by
  show (String.ofList (s ++ t)).toByteArray = _
  rw [String.toByteArray_ofList, List.utf8Encode_append, ← String.toByteArray_ofList,
    ← String.toByteArray_ofList]
  rfl

theorem eq_nil_of_utf8Size_eq_zero {t : Text} (h : utf8Size t = 0) : t = [] := by
  cases t with
  | nil => rfl
  | cons c t => exact absurd h (Nat.ne_of_gt (utf8Size_cons_pos c t))

/-- Of two ways to split a text, the one with fewer bytes in front goes first. -/
theorem exists_append_of_utf8Size_le {a x b y : Text} (h : a ++ x = b ++ y)
    (hle : utf8Size a ≤ utf8Size b) : ∃ between, b = a ++ between ∧ x = between ++ y := by
  rcases List.append_eq_append_iff.mp h with ⟨between, hb, hx⟩ | ⟨between, ha, hy⟩
  · exact ⟨between, hb, hx⟩
  · have hsize := congrArg utf8Size ha
    rw [utf8Size_append] at hsize
    obtain rfl : between = [] := eq_nil_of_utf8Size_eq_zero (by omega)
    rw [List.append_nil] at ha
    exact ⟨[], by rw [List.append_nil, ha], hy.symm⟩

/-! ## Bytes of parts -/

theorem byteAt?_append_left {s : Text} {i : Nat} (h : i < utf8Size s) (t : Text) :
    byteAt? (s ++ t) i = byteAt? s i := by
  rw [← size_encode] at h
  rw [byteAt?, encode_append, ByteArray.data_append]
  exact Array.getElem?_append_left h

theorem byteAt?_append_right (s t : Text) (i : Nat) :
    byteAt? (s ++ t) (utf8Size s + i) = byteAt? t i := by
  rw [byteAt?, encode_append, ByteArray.data_append, ← size_encode]
  show (_ ++ _)[(encode s).data.size + i]? = _
  rw [Array.getElem?_append_right (Nat.le_add_right _ _), Nat.add_sub_cancel_left]
  rfl

theorem extract_encode (before part after : Text) :
    (encode (before ++ (part ++ after))).extract (utf8Size before)
        (utf8Size before + utf8Size part) = encode part := by
  have hbehind := @ByteArray.extract_append_size_add (encode before)
    (encode part ++ encode after) 0 (encode part).size
  rw [encode_append, encode_append, ← size_encode, ← size_encode]
  rw [Nat.add_zero] at hbehind
  rw [hbehind, ByteArray.extract_append_eq_left rfl]

/-! ## Bytes of characters -/

theorem toList_encode_singleton (c : Char) :
    (encode [c]).data.toList = String.utf8EncodeChar c := by
  show (String.ofList [c]).toByteArray.data.toList = _
  rw [String.toByteArray_ofList, List.utf8Encode_singleton, List.toList_data_toByteArray]

theorem byteAt?_singleton (c : Char) (i : Nat) : byteAt? [c] i = (String.utf8EncodeChar c)[i]? := by
  rw [byteAt?, ← Array.getElem?_toList, toList_encode_singleton]

/-- All bytes of a character that is not ASCII are greater than those of ASCII characters. -/
theorem le_toNat_of_mem_utf8EncodeChar {c : Char} (hc : c.utf8Size ≠ 1) {b : UInt8}
    (h : b ∈ String.utf8EncodeChar c) : 128 ≤ b.toNat := by
  have hor (x y : UInt8) (hy : 128 ≤ y.toNat) : 128 ≤ (x ||| y).toNat := by
    rw [UInt8.toNat_or]
    exact Nat.le_trans hy Nat.right_le_or
  rcases Char.utf8Size_eq c with hsize | hsize | hsize | hsize
  · exact absurd hsize hc
  · rw [String.utf8EncodeChar_eq_cons_cons hsize] at h
    simp only [List.mem_cons, List.not_mem_nil, or_false] at h
    rcases h with rfl | rfl <;> exact hor _ _ (by decide)
  · rw [String.utf8EncodeChar_eq_cons_cons_cons hsize] at h
    simp only [List.mem_cons, List.not_mem_nil, or_false] at h
    rcases h with rfl | rfl | rfl <;> exact hor _ _ (by decide)
  · rw [String.utf8EncodeChar_eq_cons_cons_cons_cons hsize] at h
    simp only [List.mem_cons, List.not_mem_nil, or_false] at h
    rcases h with rfl | rfl | rfl | rfl <;> exact hor _ _ (by decide)

theorem toNat_lt_of_utf8Size {c : Char} (hc : c.utf8Size = 1) : c.toNat < 128 := by
  have hle := UInt32.le_iff_toNat_le.mp (Char.utf8Size_eq_one_iff.mp hc)
  exact Nat.lt_succ_of_le hle

theorem toNat_toUInt8 {c : Char} (hc : c.utf8Size = 1) : c.toUInt8.toNat = c.toNat := by
  have hlt := toNat_lt_of_utf8Size hc
  have hval : c.val.toNat = c.toNat := rfl
  rw [Char.toUInt8, UInt32.toNat_toUInt8]
  omega

/-- A byte that reads as an ASCII character belongs to that character. -/
theorem eq_of_mem_utf8EncodeChar {c d : Char} (hd : d.utf8Size = 1) {i : Nat}
    (h : (String.utf8EncodeChar c)[i]? = some d.toUInt8) : c = d ∧ i = 0 := by
  by_cases hc : c.utf8Size = 1
  · rw [String.utf8EncodeChar_eq_singleton hc, List.getElem?_singleton] at h
    split at h
    · next hi =>
      refine ⟨?_, hi⟩
      have hbytes : c.toUInt8 = d.toUInt8 := Option.some.inj h
      have hcodes : c.toNat = d.toNat := by
        rw [← toNat_toUInt8 hc, ← toNat_toUInt8 hd, hbytes]
      exact Char.toNat_inj.mp hcodes
    · cases h
  · have hle := le_toNat_of_mem_utf8EncodeChar hc (List.mem_of_getElem? h)
    have hlt := toNat_lt_of_utf8Size hd
    rw [toNat_toUInt8 hd] at hle
    omega

/-- A byte reads as an ASCII character exactly where the character stands. -/
theorem byteAt?_eq_some_iff {d : Char} (hd : d.utf8Size = 1) {t : Text} {i : Nat} :
    byteAt? t i = some d.toUInt8 ↔ ∃ before after, t = before ++ d :: after ∧ utf8Size before = i := by
  constructor
  · intro h
    induction t generalizing i with
    | nil => cases h
    | cons c t ih =>
      have happend : c :: t = [c] ++ t := rfl
      have hsize : utf8Size [c] = c.utf8Size := Nat.add_zero _
      by_cases hi : i < c.utf8Size
      · rw [happend, byteAt?_append_left (hsize ▸ hi), byteAt?_singleton] at h
        obtain ⟨rfl, rfl⟩ := eq_of_mem_utf8EncodeChar hd h
        exact ⟨[], t, rfl, rfl⟩
      · obtain ⟨j, rfl⟩ := Nat.exists_eq_add_of_le (Nat.le_of_not_lt hi)
        rw [happend, ← hsize, byteAt?_append_right] at h
        obtain ⟨before, after, rfl, rfl⟩ := ih h
        exact ⟨c :: before, after, rfl, rfl⟩
  · rintro ⟨before, after, rfl, rfl⟩
    have happend : d :: after = [d] ++ after := rfl
    have hfirst := byteAt?_append_right before (d :: after) 0
    rw [Nat.add_zero] at hfirst
    rw [hfirst, happend, byteAt?_append_left (by rw [utf8Size_cons, hd]; omega), byteAt?_singleton,
      String.utf8EncodeChar_eq_singleton hd]
    rfl

/-- An ASCII character is one byte, so what stands behind it begins one byte further on. -/
theorem byteAt?_append_cons {d : Char} (hd : d.utf8Size = 1) (before behind : Text) (i : Nat) :
    byteAt? (before ++ d :: behind) (utf8Size before + 1 + i) = byteAt? behind i := by
  have hsize : utf8Size (before ++ [d]) = utf8Size before + 1 := by
    rw [utf8Size_append, utf8Size_cons, hd]
    rfl
  rw [List.append_cons, ← hsize, byteAt?_append_right]

end StaticSite.Text
