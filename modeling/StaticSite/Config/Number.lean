import StaticSite.Config.Value

/-!
# Numbers in text

Whole numbers in decimal digits, and numbers with a fraction or an exponent, as a lenient reader
takes them: signs, missing digits on one side of the point, and names for what is not finite.
-/

namespace StaticSite

namespace Decimal

/-- A sign, and the rest of the text. -/
def splitSign : Text → Bool × Text
  | '-' :: t => (true, t)
  | '+' :: t => (false, t)
  | t => (false, t)

/-- The value of decimal digits, zero for none; `none` when there is anything else. -/
def digits? (t : Text) : Option Nat :=
  if t.isEmpty then some 0 else Text.toNat? t

/-- The value of an exponent: digits with an optional sign. -/
def exponent? (t : Text) : Option Int :=
  let (negative, digits) := splitSign t
  (Text.toNat? digits).map fun n => if negative then -(n : Int) else n

/-- The number made of the digits before and behind a point, and an exponent. -/
def ofParts? (whole fraction : Text) (exponent : Int) : Option Decimal :=
  if whole.isEmpty && fraction.isEmpty then none
  else
    match digits? whole, digits? fraction with
    | some _, some _ =>
      (digits? (whole ++ fraction)).map fun n => finite n (exponent - fraction.length)
    | _, _ => none

/-- The number that a text is, with or without a fraction and an exponent. -/
def ofText? (t : Text) : Option Decimal :=
  let (_, t) := splitSign t
  let word := String.ofList (Text.toLowerAscii t)
  if ["inf", "infinity", "nan"].contains word then some special
  else
    let mantissa := t.takeWhile fun c => c != 'e' && c != 'E'
    let exponent :=
      match t.drop mantissa.length with
      | [] => some 0
      | _ :: digits => exponent? digits
    let (whole, fraction) := (Text.splitOnce? ['.'] mantissa).getD (mantissa, [])
    exponent.bind (ofParts? whole fraction)

end Decimal

/-- The least whole number of 64 bits with a sign. -/
def leastInt64 : Int := -9223372036854775808

/-- The greatest whole number of 64 bits with a sign. -/
def greatestInt64 : Int := 9223372036854775807

/-- The greatest whole number of 64 bits without a sign. -/
def greatestNat64 : Nat := 18446744073709551615

/-- The whole number of 64 bits that a text is, with an optional sign. -/
def int64OfText? (t : Text) : Option Int :=
  match Decimal.exponent? t with
  | some n => if leastInt64 ≤ n && n ≤ greatestInt64 then some n else none
  | none => none

end StaticSite
