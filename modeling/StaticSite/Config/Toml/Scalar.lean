import StaticSite.Config.Value

/-!
# Bare values of TOML

Truth values, whole numbers, numbers with a fraction or an exponent, dates and times are written
without quotes. `scalar?` classifies such a word as a whole.
-/

namespace StaticSite.Toml

/-! ## Numbers -/

/-- The digits of a run in which single underscores may stand between two digits. -/
def digitRun? (isDigit : Char → Bool) (t : Text) : Option Text :=
  let groups := Text.splitOnChar '_' t
  if groups.all fun g => !g.isEmpty && g.all isDigit then some groups.flatten else none

/-- The value of digits in a base. -/
def valueInBase (base : Nat) (digits : Text) : Nat :=
  digits.foldl
    (fun n c =>
      let d :=
        if c.isDigit then c.toNat - '0'.toNat
        else if 'a' ≤ c then c.toNat - 'a'.toNat + 10
        else c.toNat - 'A'.toNat + 10
      base * n + d) 0

/-- Whether a character is a digit of base sixteen. -/
def isHexDigit (c : Char) : Bool :=
  c.isDigit || ('a' ≤ c && c ≤ 'f') || ('A' ≤ c && c ≤ 'F')

/-- The sign of a number, and the rest of it. -/
def splitSign : Text → Bool × Text
  | '-' :: t => (true, t)
  | '+' :: t => (false, t)
  | t => (false, t)

/-- Decimal digits without a leading zero. -/
def wholeDigits? (t : Text) : Option Text :=
  match digitRun? Char.isDigit t with
  | some ('0' :: _ :: _) => none
  | digits => digits

/-- A whole number. -/
def integer? (t : Text) : Option ConfigValue :=
  let inBase (base : Nat) (isDigit : Char → Bool) (digits : Text) : Option ConfigValue :=
    (digitRun? isDigit digits).map fun ds => .integer (valueInBase base ds)
  match t with
  | '0' :: 'x' :: digits => inBase 16 isHexDigit digits
  | '0' :: 'o' :: digits => inBase 8 (fun c => '0' ≤ c && c ≤ '7') digits
  | '0' :: 'b' :: digits => inBase 2 (fun c => c == '0' || c == '1') digits
  | _ =>
    let (negative, digits) := splitSign t
    (wholeDigits? digits).map fun ds =>
      let n : Int := valueInBase 10 ds
      .integer (if negative then -n else n)

/-- The exponent of a number: digits with an optional sign. -/
def exponent? (t : Text) : Option Int :=
  let (negative, digits) := splitSign t
  (digitRun? Char.isDigit digits).map fun ds =>
    let n : Int := valueInBase 10 ds
    if negative then -n else n

/-- A number with a fraction, an exponent or both. -/
def decimal? (t : Text) : Option ConfigValue :=
  let (_, t) := splitSign t
  if t = ['i', 'n', 'f'] || t = ['n', 'a', 'n'] then some (.decimal .special)
  else
    let mantissa := t.takeWhile fun c => c != 'e' && c != 'E'
    let power :=
      match t.drop mantissa.length with
      | [] => some 0
      | _ :: digits => exponent? digits
    match power, Text.splitOnce? ['.'] mantissa with
    | none, _ => none
    | some e, none =>
      if mantissa.length = t.length then none
      else (wholeDigits? mantissa).map fun ds => .decimal (.finite (valueInBase 10 ds) e)
    | some e, some (whole, fraction) =>
      match wholeDigits? whole, digitRun? Char.isDigit fraction with
      | some ds, some fs => some (.decimal (.finite (valueInBase 10 (ds ++ fs)) (e - fs.length)))
      | _, _ => none

/-! ## Dates and times -/

/-- The value of exactly so many digits at the beginning, and the rest. -/
def fixedDigits? (n : Nat) (t : Text) : Option (Nat × Text) :=
  let digits := t.take n
  if digits.length = n ∧ digits.all Char.isDigit then some (valueInBase 10 digits, t.drop n)
  else none

/-- The number of days of a month. -/
def daysOfMonth (year month : Nat) : Nat :=
  if month = 2 then
    if year % 4 = 0 ∧ (year % 100 ≠ 0 ∨ year % 400 = 0) then 29 else 28
  else if month = 4 ∨ month = 6 ∨ month = 9 ∨ month = 11 then 30
  else 31

/-- The text behind a date. -/
def date? (t : Text) : Option Text := do
  let (year, t) ← fixedDigits? 4 t
  let t ← Text.dropStart? ['-'] t
  let (month, t) ← fixedDigits? 2 t
  let t ← Text.dropStart? ['-'] t
  let (day, t) ← fixedDigits? 2 t
  if 1 ≤ month ∧ month ≤ 12 ∧ 1 ≤ day ∧ day ≤ daysOfMonth year month then some t else none

/-- The text behind hours and minutes in the given ranges. -/
def hoursMinutes? (t : Text) : Option Text := do
  let (hour, t) ← fixedDigits? 2 t
  let t ← Text.dropStart? [':'] t
  let (minute, t) ← fixedDigits? 2 t
  if hour ≤ 23 ∧ minute ≤ 59 then some t else none

/-- The text behind a time of day. -/
def time? (t : Text) : Option Text := do
  let t ← hoursMinutes? t
  match t with
  | ':' :: t =>
    let (second, t) ← fixedDigits? 2 t
    if 60 < second then none
    else
      match t with
      | '.' :: t =>
        let rest := t.dropWhile Char.isDigit
        if rest.length = t.length then none else some rest
      | t => some t
  | t => some t

/-- Whether a text is an offset from universal time. -/
def isOffset : Text → Bool
  | ['Z'] => true
  | ['z'] => true
  | c :: t => (c == '+' || c == '-') && hoursMinutes? t == some []
  | [] => false

/-- Whether a text is a date, a time, or a date and a time with or without an offset. -/
def isDate (t : Text) : Bool :=
  match date? t with
  | some [] => true
  | some (c :: rest) =>
    (c == 'T' || c == 't' || c == ' ') &&
      match time? rest with
      | some [] => true
      | some offset => isOffset offset
      | none => false
  | none => time? t == some []

/-! ## Words -/

/-- A value written without quotes. -/
def scalar? (t : Text) : Option ConfigValue :=
  if t = ['t', 'r', 'u', 'e'] then some (.boolean true)
  else if t = ['f', 'a', 'l', 's', 'e'] then some (.boolean false)
  else if isDate t then some .date
  else
    match integer? t with
    | some v => some v
    | none => decimal? t

/-- Whether a character can be part of a value without quotes. -/
def isScalarChar (c : Char) : Bool :=
  c.isAlphanum || c == '_' || c == '+' || c == '-' || c == '.' || c == ':'

/-- The value without quotes that a text begins with, and the rest. A date and a time may have a
blank between them. -/
def scalarAtStart? (t : Text) : Option (ConfigValue × Text) :=
  let word := t.takeWhile isScalarChar
  let rest := t.drop word.length
  match rest with
  | ' ' :: more =>
    let time := more.takeWhile isScalarChar
    if date? word = some [] ∧ (time?  time).isSome then
      (scalar? (word ++ ' ' :: time)).map fun v => (v, more.drop time.length)
    else (scalar? word).map fun v => (v, rest)
  | _ => (scalar? word).map fun v => (v, rest)

end StaticSite.Toml
