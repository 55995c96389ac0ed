/-!
# Texts

Everything the site compiler reads and writes is a `Text`, a list of characters. This module holds
the operations that the other modules share: sizes and cuts measured in UTF-8 bytes, the search for
a separator, and joining.

Cuts are made at byte offsets because positions in a text are reported as byte offsets. A cut never
splits a character: `takeBytes n t` and `dropBytes n t` put `t` back together for every `n`
(`takeBytes_append_dropBytes`), and at the end of a leading part they give back exactly that part
(`takeBytes_append`, `dropBytes_append`).
-/

namespace StaticSite

/-- A text is a list of characters. -/
abbrev Text := List Char

namespace Text

/-! ## Sizes and cuts in bytes -/

/-- The number of bytes of the UTF-8 form of a text. -/
def utf8Size : Text → Nat
  | [] => 0
  | c :: t => c.utf8Size + utf8Size t

/-- The leading characters of a text that use up `n` bytes; a character that begins within the
first `n` bytes is taken whole. -/
def takeBytes : Nat → Text → Text
  | _, [] => []
  | 0, _ => []
  | n + 1, c :: t => c :: takeBytes (n + 1 - c.utf8Size) t

/-- The text behind its first `n` bytes; a character that begins within them is dropped whole. -/
def dropBytes : Nat → Text → Text
  | _, [] => []
  | 0, t => t
  | n + 1, c :: t => dropBytes (n + 1 - c.utf8Size) t

@[simp]
theorem utf8Size_nil : utf8Size [] = 0 := rfl

@[simp]
theorem utf8Size_cons (c : Char) (t : Text) : utf8Size (c :: t) = c.utf8Size + utf8Size t := rfl

@[simp]
theorem utf8Size_append (s t : Text) : utf8Size (s ++ t) = utf8Size s + utf8Size t := by
  induction s with
  | nil => simp
  | cons c s ih => simp [ih, Nat.add_assoc]

@[simp]
theorem takeBytes_zero (t : Text) : takeBytes 0 t = [] := by
  cases t <;> rfl

@[simp]
theorem dropBytes_zero (t : Text) : dropBytes 0 t = t := by
  cases t <;> rfl

theorem takeBytes_append_dropBytes (n : Nat) (t : Text) : takeBytes n t ++ dropBytes n t = t := by
  induction t generalizing n with
  | nil => cases n <;> rfl
  | cons c t ih =>
    cases n with
    | zero => rfl
    | succ n => simp [takeBytes, dropBytes, ih]

/-- A character uses at least one byte. -/
theorem utf8Size_cons_pos (c : Char) (t : Text) : 0 < utf8Size (c :: t) := by
  have := c.utf8Size_pos
  simp only [utf8Size_cons]
  omega

theorem length_le_utf8Size (t : Text) : t.length ≤ utf8Size t := by
  induction t with
  | nil => exact Nat.le_refl 0
  | cons c t ih =>
    have hc := c.utf8Size_pos
    rw [List.length_cons, utf8Size_cons]
    omega

theorem takeBytes_append (s t : Text) : takeBytes (utf8Size s) (s ++ t) = s := by
  induction s with
  | nil => simp
  | cons c s ih =>
    have hc := c.utf8Size_pos
    obtain ⟨n, hn⟩ : ∃ n, utf8Size (c :: s) = n + 1 :=
      ⟨utf8Size (c :: s) - 1, by have := utf8Size_cons_pos c s; omega⟩
    have hs : n + 1 - c.utf8Size = utf8Size s := by simp only [utf8Size_cons] at hn; omega
    rw [hn, List.cons_append, takeBytes, hs, ih]

theorem dropBytes_append (s t : Text) : dropBytes (utf8Size s) (s ++ t) = t := by
  have h := takeBytes_append_dropBytes (utf8Size s) (s ++ t)
  rw [takeBytes_append] at h
  exact List.append_cancel_left h

/-! ## Beginnings, ends and separators -/

/-- The rest of a text behind a given beginning, if it begins that way. -/
def dropStart? (start : Text) (t : Text) : Option Text :=
  match start, t with
  | [], t => some t
  | _ :: _, [] => none
  | s :: start, c :: t => if s = c then dropStart? start t else none

/-- The part of a text before a given ending, if it ends that way. -/
def dropEnd? (ending : Text) (t : Text) : Option Text :=
  (dropStart? ending.reverse t.reverse).map List.reverse

theorem dropStart?_eq_some_iff {start t rest : Text} :
    dropStart? start t = some rest ↔ t = start ++ rest := by
  induction start generalizing t with
  | nil => simp [dropStart?, eq_comm]
  | cons s start ih =>
    cases t with
    | nil => simp [dropStart?]
    | cons c t =>
      by_cases h : s = c
      · simp [dropStart?, h, ih]
      · simp [dropStart?, h, eq_comm]

/-- The two sides of the first occurrence of a separator. -/
def splitOnce? (separator : Text) : Text → Option (Text × Text)
  | [] => if separator.isEmpty then some ([], []) else none
  | c :: t =>
    match dropStart? separator (c :: t) with
    | some rest => some ([], rest)
    | none => (splitOnce? separator t).map fun sides => (c :: sides.1, sides.2)

/-- Whether a text occurs somewhere in another one. -/
def contains (part t : Text) : Bool :=
  (splitOnce? part t).isSome

/-- The pieces of a text between the occurrences of a character. -/
def splitOnChar (separator : Char) : Text → List Text
  | [] => [[]]
  | c :: t =>
    match splitOnChar separator t with
    | [] => [[c]]
    | piece :: pieces => if c = separator then [] :: piece :: pieces else (c :: piece) :: pieces

/-- The texts of a list with a separator between each two of them. -/
def join (separator : Text) : List Text → Text
  | [] => []
  | [t] => t
  | t :: ts => t ++ separator ++ join separator ts

/-! ## Numbers and ASCII letters -/

/-- The number in decimal digits. -/
def ofNat (n : Nat) : Text :=
  Nat.toDigits 10 n

/-- The value of a run of decimal digits; `none` when it is empty or holds anything else. -/
def toNat? (t : Text) : Option Nat :=
  if t.isEmpty || !t.all Char.isDigit then none
  else some (t.foldl (fun n c => 10 * n + (c.toNat - '0'.toNat)) 0)

/-- The text with its ASCII capitals made small. -/
def toLowerAscii (t : Text) : Text :=
  t.map Char.toLower

end Text

end StaticSite
