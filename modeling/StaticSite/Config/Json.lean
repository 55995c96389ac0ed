import StaticSite.Config.Merge
import StaticSite.Config.Number

/-!
# JSON

A strict reader of JSON: no trailing commas, no leading zeros, no characters below the space in
strings, no half of a surrogate pair, no number too great for double precision, and no more than 127
values within each other.
-/

namespace StaticSite.Json

/-- The text behind white space. -/
def skipSpace (t : Text) : Text :=
  t.dropWhile fun c => c = ' ' || c = '\t' || c = '\n' || c = '\r'

/-! ## Strings -/

/-- What the characters before mean for the next one in a string. -/
inductive StringState
  /-- Nothing. -/
  | plain
  /-- A backslash was read. -/
  | escape
  /-- A code lacks some digits; it may belong to the first half of a pair. -/
  | code (missing value : Nat) (high : Option Nat)
  /-- The first half of a pair was read. -/
  | half (high : Nat)
  /-- The first half of a pair and a backslash were read. -/
  | halfEscape (high : Nat)
  deriving DecidableEq, Repr

/-- The value of a hexadecimal digit. -/
def hexDigit? (c : Char) : Option Nat :=
  if c.isDigit then some (c.toNat - '0'.toNat)
  else if 'a' ≤ c ∧ c ≤ 'f' then some (c.toNat - 'a'.toNat + 10)
  else if 'A' ≤ c ∧ c ≤ 'F' then some (c.toNat - 'A'.toNat + 10)
  else none

/-- The character that an escape of one letter stands for. -/
def shortEscape? (c : Char) : Option Char :=
  if c = '"' || c = '\\' || c = '/' then some c
  else if c = 'b' then some '\x08'
  else if c = 'f' then some '\x0c'
  else if c = 'n' then some '\n'
  else if c = 'r' then some '\r'
  else if c = 't' then some '\t'
  else none

/-- What a finished code stands for: a character, or the first half of a pair. -/
def finishCode? (value : Nat) : Option Nat → Option (Char ⊕ Nat)
  | none =>
    if 0xD800 ≤ value && value ≤ 0xDBFF then some (.inr value)
    else if 0xDC00 ≤ value && value ≤ 0xDFFF then none
    else some (.inl (Char.ofNat value))
  | some high =>
    if 0xDC00 ≤ value && value ≤ 0xDFFF then
      some (.inl (Char.ofNat (0x10000 + (high - 0xD800) * 0x400 + (value - 0xDC00))))
    else none

/-- Reads a string behind its opening quote; answers with the string and the text behind it. -/
def string? : StringState → Text → Option (Text × Text)
  | _, [] => none
  | .plain, c :: t =>
    if c = '"' then some ([], t)
    else if c = '\\' then string? .escape t
    else if c.toNat < 0x20 then none
    else (string? .plain t).map fun (s, rest) => (c :: s, rest)
  | .escape, c :: t =>
    if c = 'u' then string? (.code 4 0 none) t
    else
      match shortEscape? c with
      | none => none
      | some d => (string? .plain t).map fun (s, rest) => (d :: s, rest)
  | .code missing value high, c :: t =>
    match hexDigit? c with
    | none => none
    | some d =>
      if 1 < missing then string? (.code (missing - 1) (16 * value + d) high) t
      else
        match finishCode? (16 * value + d) high with
        | none => none
        | some (.inl char) => (string? .plain t).map fun (s, rest) => (char :: s, rest)
        | some (.inr high) => string? (.half high) t
  | .half high, c :: t => if c = '\\' then string? (.halfEscape high) t else none
  | .halfEscape high, c :: t => if c = 'u' then string? (.code 4 0 (some high)) t else none

/-! ## Numbers -/

/-- Whether digits are a whole number without leading zeros. -/
def isWhole : Text → Bool
  | [] => false
  | ['0'] => true
  | digits => digits.all Char.isDigit && digits.head? != some '0'

/-- The fraction behind the digits of a number, without its point. -/
def fraction? : Text → Option (Option Text × Text)
  | '.' :: t =>
    let digits := t.takeWhile Char.isDigit
    if digits.isEmpty then none else some (some digits, t.drop digits.length)
  | t => some (none, t)

/-- The exponent of a number. -/
def power? : Text → Option (Option Int × Text)
  | [] => some (none, [])
  | c :: t =>
    if c = 'e' || c = 'E' then
      let (negative, t) := Decimal.splitSign t
      let digits := t.takeWhile Char.isDigit
      (Text.toNat? digits).map fun n =>
        (some (if negative then -(n : Int) else n), t.drop digits.length)
    else some (none, c :: t)

/-- A whole number, or a number in double precision if it has no place in 64 bits. -/
def wholeNumber (negative : Bool) (n : Nat) : ConfigValue :=
  if negative then
    if leastInt64 ≤ -(n : Int) then .integer (-(n : Int)) else .decimal (.finite n 0)
  else if n ≤ greatestNat64 then .integer n
  else .decimal (.finite n 0)

/-- The number that a text begins with, and the rest. -/
def number? (t : Text) : Option (ConfigValue × Text) := do
  let (negative, t) :=
    match t with
    | '-' :: rest => (true, rest)
    | t => (false, t)
  let whole := t.takeWhile Char.isDigit
  let (fraction, t) ← fraction? (t.drop whole.length)
  let (power, t) ← power? t
  if !isWhole whole then none
  else
    match fraction, power with
    | none, none => (Text.toNat? whole).map fun n => (wholeNumber negative n, t)
    | _, _ =>
      let x ← Decimal.ofParts? whole (fraction.getD []) (power.getD 0)
      if x.overflows then none else some (.decimal x, t)

/-! ## Values -/

mutual

/-- The value that a text begins with, and the rest. At most `depth` further values may be open
within each other. -/
def value? : (fuel depth : Nat) → Text → Option (ConfigValue × Text)
  | 0, _, _ => none
  | fuel + 1, depth, t =>
    match skipSpace t with
    | '"' :: t => (string? .plain t).map fun (s, rest) => (.text s, rest)
    | '[' :: t =>
      match depth with
      | 0 => none
      | depth + 1 =>
        match skipSpace t with
        | ']' :: rest => some (.list [], rest)
        | t => (items? fuel depth t).map fun (items, rest) => (.list items, rest)
    | '\x7b' :: t =>
      match depth with
      | 0 => none
      | depth + 1 =>
        match skipSpace t with
        | '\x7d' :: rest => some (.table [], rest)
        | t => (members? fuel depth [] t).map fun (members, rest) => (.table members, rest)
    | t =>
      match Text.dropStart? "true".toList t, Text.dropStart? "false".toList t,
        Text.dropStart? "null".toList t with
      | some rest, _, _ => some (.boolean true, rest)
      | _, some rest, _ => some (.boolean false, rest)
      | _, _, some rest => some (.null, rest)
      | _, _, _ => number? t

/-- The items of a list, at least one, up to its closing bracket. -/
def items? : (fuel depth : Nat) → Text → Option (List ConfigValue × Text)
  | 0, _, _ => none
  | fuel + 1, depth, t =>
    match value? fuel depth t with
    | none => none
    | some (item, t) =>
      match skipSpace t with
      | ']' :: rest => some ([item], rest)
      | ',' :: t => (items? fuel depth t).map fun (items, rest) => (item :: items, rest)
      | _ => none

/-- The members of an object, at least one, up to its closing brace. A repeated name takes the last
value. -/
def members? : (fuel depth : Nat) → List (Text × ConfigValue) → Text →
    Option (List (Text × ConfigValue) × Text)
  | 0, _, _, _ => none
  | fuel + 1, depth, members, t =>
    match skipSpace t with
    | '"' :: t =>
      match string? .plain t with
      | none => none
      | some (name, t) =>
        match skipSpace t with
        | ':' :: t =>
          match value? fuel depth t with
          | none => none
          | some (value, t) =>
            let members := ConfigValue.setMember name value members
            match skipSpace t with
            | '\x7d' :: rest => some (members, rest)
            | ',' :: t => members? fuel depth members t
            | _ => none
        | _ => none
    | _ => none

end

/-- The number of values that may be open within each other. -/
def depthLimit : Nat := 127

/-- The value that a text is. -/
def parse? (t : Text) : Option ConfigValue :=
  match value? (2 * t.length + 2) depthLimit t with
  | some (value, rest) => if (skipSpace rest).isEmpty then some value else none
  | none => none

end StaticSite.Json
