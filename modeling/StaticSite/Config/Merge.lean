import StaticSite.Config.Value

/-!
# Layers of configuration

A configuration is put together from layers, where a later layer wins. Tables are merged member by
member; any other value takes the place of the one before. A value may be put at a path of names
(`build.prod`), which makes the tables that are missing on the way.
-/

namespace StaticSite

namespace ConfigValue

/-- The members with one of them replaced, or added at the end. -/
def setMember (name : Text) (value : ConfigValue) :
    List (Text × ConfigValue) → List (Text × ConfigValue)
  | [] => [(name, value)]
  | (key, old) :: rest =>
    if key = name then (key, value) :: rest else (key, old) :: setMember name value rest

/-- The members of a table; none for any other value. -/
def members : ConfigValue → List (Text × ConfigValue)
  | table members => members
  | _ => []

/-- The value with another one laid over it. A table without members changes nothing. -/
def overlay (old : ConfigValue) : ConfigValue → ConfigValue
  | table [] => old
  | table (m :: ms) => table (overlayMembers old.members (m :: ms))
  | value => value
where
  /-- The members with other ones laid over them. -/
  overlayMembers (old : List (Text × ConfigValue)) :
      List (Text × ConfigValue) → List (Text × ConfigValue)
    | [] => old
    | (name, value) :: rest =>
      let before := ((table old).member? name).getD null
      overlayMembers (setMember name (overlay before value) old) rest

/-! ## Paths -/

/-- A step on the way to a value. -/
inductive Step
  /-- To the member of a name. -/
  | member (name : Text)
  /-- To a place in a list. -/
  | index
  deriving DecidableEq, Repr

/-- Whether a name in a path may hold a character. -/
def isNameChar (c : Char) : Bool :=
  c.isAlphanum || c = '_' || c = '-'

/-- Whether a text is a number in a path: digits with an optional sign and spaces around. -/
def isIndex (t : Text) : Bool :=
  let isSpace (c : Char) : Bool := c = ' ' || c = '\t'
  let word := ((t.dropWhile isSpace).reverse.dropWhile isSpace).reverse
  let digits :=
    match word with
    | '-' :: rest => rest
    | '+' :: rest => rest
    | _ => word
  !digits.isEmpty && digits.all Char.isDigit

/-- Reads the steps behind the first name of a path, at most `fuel` of them. -/
def stepsBehind? : (fuel : Nat) → Text → Option (List Step)
  | _, [] => some []
  | 0, _ => none
  | fuel + 1, '.' :: t =>
    let name := t.takeWhile isNameChar
    if name.isEmpty then none
    else (stepsBehind? fuel (t.drop name.length)).map fun steps => .member name :: steps
  | fuel + 1, '[' :: t =>
    let number := t.takeWhile fun c => c != ']'
    match t.drop number.length with
    | ']' :: rest =>
      if isIndex number then (stepsBehind? fuel rest).map fun steps => .index :: steps else none
    | _ => none
  | _, _ => none

/-- The steps that a key stands for. A key that is no path is a name as a whole. -/
def stepsOfKey (key : Text) : List Step :=
  let name := key.takeWhile isNameChar
  match if name.isEmpty then none else stepsBehind? key.length (key.drop name.length) with
  | some steps => .member name :: steps
  | none => [.member key]

/-- The value with another one laid over what stands at the end of some steps. No setting stands in
a list, so what lists hold is not kept. -/
def overlayAt (value : ConfigValue) : List Step → ConfigValue → ConfigValue
  | [], old => overlay old value
  | .member name :: steps, old =>
    let before := (old.member? name).getD null
    table (setMember name (overlayAt value steps before) old.members)
  | .index :: _, _ => list []

/-- The configuration with a layer laid over it, whose keys may be paths. -/
def overlayKeys (old : ConfigValue) (layer : List (Text × ConfigValue)) : ConfigValue :=
  layer.foldl (fun config (key, value) => overlayAt value (stepsOfKey key) config) old

/-! ## Truth values -/

/-- The truth value that a setting stands for: a number is true unless it is zero, and some words
are read as truth values. -/
def toBool? : ConfigValue → Option Bool
  | boolean b => some b
  | integer n => some (n != 0)
  | decimal x => some !x.isZero
  | text t =>
    let word := String.ofList (Text.toLowerAscii t)
    if ["1", "true", "on", "yes"].contains word then some true
    else if ["0", "false", "off", "no"].contains word then some false
    else none
  | _ => none

end ConfigValue

end StaticSite
