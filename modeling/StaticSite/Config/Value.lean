import StaticSite.Text.Basic

/-!
# Configuration values

What a configuration file can say: texts, numbers, truth values, dates, lists and tables. Numbers
with a fraction or an exponent are kept exactly, as a whole number times a power of ten; what
double-precision arithmetic would make of them is a question put to the exact number.
-/

namespace StaticSite

/-- A number in decimal notation: `digits * 10 ^ exponent`, or one that is not finite. -/
inductive Decimal
  /-- A finite number. The sign does not matter here. -/
  | finite (digits : Nat) (exponent : Int)
  /-- Infinity or not a number. -/
  | special
  deriving DecidableEq, Repr, Inhabited

namespace Decimal

/-- Whether `digits * 10 ^ exponent` is at most `bound * 2 ^ power`. -/
def atMost (digits : Nat) (exponent : Int) (bound : Nat) (power : Int) : Bool :=
  digits * Nat.pow 10 exponent.toNat * Nat.pow 2 (-power).toNat ≤
    bound * Nat.pow 2 power.toNat * Nat.pow 10 (-exponent).toNat

/-- Whether `digits * 10 ^ exponent` is at least `bound * 2 ^ power`. -/
def atLeast (digits : Nat) (exponent : Int) (bound : Nat) (power : Int) : Bool :=
  bound * Nat.pow 2 power.toNat * Nat.pow 10 (-exponent).toNat ≤
    digits * Nat.pow 10 exponent.toNat * Nat.pow 2 (-power).toNat

/-- The exponent of ten beyond which no number is finite in double precision, nor a small one
different from zero. -/
def exponentBound : Int := 400

/-- The exponent of the first digit. -/
def magnitude (digits : Nat) (exponent : Int) : Int :=
  exponent + (Nat.toDigits 10 digits).length

/-- Whether the double-precision number nearest to it is zero: it is at most half the least positive
one, `2 ^ -1075`. -/
def isZero : Decimal → Bool
  | special => false
  | finite digits exponent =>
    if digits = 0 then true
    else if magnitude digits exponent < -exponentBound then true
    else if exponentBound < magnitude digits exponent then false
    else atMost digits exponent 1 (-1075)

/-- Whether a finite number has no finite double-precision number nearest to it: it reaches
`2 ^ 1024 - 2 ^ 970`, which is `(2 ^ 54 - 1) * 2 ^ 970`. -/
def overflows : Decimal → Bool
  | special => false
  | finite digits exponent =>
    if digits = 0 then false
    else if magnitude digits exponent < -exponentBound then false
    else if exponentBound < magnitude digits exponent then true
    else atLeast digits exponent 18014398509481983 970

end Decimal

/-- A value in a configuration file. -/
inductive ConfigValue
  | null
  | text (t : Text)
  | integer (n : Int)
  /-- A number with a fraction or an exponent. -/
  | decimal (x : Decimal)
  | boolean (b : Bool)
  | date
  | list (items : List ConfigValue)
  | table (members : List (Text × ConfigValue))
  deriving Inhabited

namespace ConfigValue

/-- The member of a table. -/
def member? (name : Text) : ConfigValue → Option ConfigValue
  | table members => lookupMember members
  | _ => none
where
  /-- The value of the first member with the name. -/
  lookupMember : List (Text × ConfigValue) → Option ConfigValue
    | [] => none
    | (key, value) :: rest => if key = name then some value else lookupMember rest

/-- Whether every number in a value passes a test. -/
def allNumbers (integers : Int → Bool) (decimals : Decimal → Bool) : ConfigValue → Bool
  | integer n => integers n
  | decimal x => decimals x
  | list items => allItems items
  | table members => allMembers members
  | _ => true
where
  /-- Whether every number in some values passes the test. -/
  allItems : List ConfigValue → Bool
    | [] => true
    | item :: rest => allNumbers integers decimals item && allItems rest
  /-- Whether every number in the values of some members passes the test. -/
  allMembers : List (Text × ConfigValue) → Bool
    | [] => true
    | (_, value) :: rest => allNumbers integers decimals value && allMembers rest

end ConfigValue

end StaticSite
