import StaticSite.Config.Toml.Quoted
import StaticSite.Config.Toml.Scalar

/-!
# TOML documents

A document is a list of statements: entries, headers of tables and headers of array tables.
`statements?` reads them, and `Toml.Node` builds the table that they describe, refusing whatever
defines a key twice. A table comes about in one of three ways, which decide what may be added to it
later: by its own header, on the way to another header, or on the way of a dotted key.
-/

namespace StaticSite.Toml

/-! ## Blanks, comments and line ends -/

/-- The text without blanks at its beginning. -/
def skipBlanks (t : Text) : Text :=
  t.dropWhile fun c => c == ' ' || c == '\t'

/-- The text without blanks, line breaks and comments at its beginning. -/
def skipTrivia : (inComment : Bool) → Text → Option Text
  | _, [] => some []
  | _, '\r' :: '\n' :: t => skipTrivia false t
  | false, c :: t =>
    if c = ' ' || c = '\t' || c = '\n' then skipTrivia false t
    else if c = '#' then skipTrivia true t
    else if c = '\r' then none
    else some (c :: t)
  | true, c :: t =>
    if c = '\n' then skipTrivia false t
    else if isPlain c then skipTrivia true t
    else none

/-- The text behind a comment, which ends with the line. -/
def skipComment : Text → Option Text
  | [] => some []
  | '\n' :: t => some t
  | '\r' :: '\n' :: t => some t
  | c :: t => if isPlain c then skipComment t else none

/-- The text behind the end of a line, which may have a comment. -/
def lineEnd? (t : Text) : Option Text :=
  match skipBlanks t with
  | [] => some []
  | '\n' :: t => some t
  | '\r' :: '\n' :: t => some t
  | '#' :: t => skipComment t
  | _ => none

/-! ## Keys -/

/-- Whether a character can be part of a key without quotes. -/
def isBareKeyChar (c : Char) : Bool :=
  c.isAlphanum || c == '_' || c == '-'

/-- The key that a text begins with, and the rest. -/
def simpleKey? (t : Text) : Option (Text × Text) :=
  match t with
  | '"' :: _ => quotedKey? t
  | '\'' :: _ => quotedKey? t
  | _ =>
    let key := t.takeWhile isBareKeyChar
    if key.isEmpty then none else some (key, t.drop key.length)

/-- The keys with dots between them that a text begins with, and the rest. -/
def dottedKey? : (fuel : Nat) → Text → Option (List Text × Text)
  | 0, _ => none
  | fuel + 1, t =>
    match simpleKey? (skipBlanks t) with
    | none => none
    | some (key, rest) =>
      match skipBlanks rest with
      | '.' :: more => (dottedKey? fuel more).map fun found => (key :: found.1, found.2)
      | rest => some ([key], rest)

/-! ## The tree of a document -/

/-- How a table came about. -/
inductive TableOrigin
  /-- By its own header, or as an inline table. -/
  | header
  /-- On the way to another header. -/
  | path
  /-- On the way of a dotted key. -/
  | dotted
  deriving DecidableEq, Repr

/-- What a key stands for while a document is read. -/
inductive Node
  | value (v : ConfigValue)
  /-- A table that may still grow. -/
  | table (origin : TableOrigin) (members : List (Text × Node))
  /-- The tables of an array table, the last one first. -/
  | tables (elements : List (List (Text × Node)))

/-- The members of a table that may still grow. -/
abbrev Members := List (Text × Node)

/-- The node of a key. -/
def Members.find? (key : Text) : Members → Option Node
  | [] => none
  | (k, node) :: rest => if k = key then some node else find? key rest

/-- The members with another node for a key, at its old place or at the end. -/
def Members.set (key : Text) (node : Node) : Members → Members
  | [] => [(key, node)]
  | (k, old) :: rest => if k = key then (k, node) :: rest else (k, old) :: set key node rest

/-- Changes the table that a path of keys leads to, with what the change says about how that table
came about. Missing tables on the way come about as `origin` says. A dotted key does not lead
through a table with a header of its own, and nothing leads through a value. -/
def changeAt (origin : TableOrigin) (change : TableOrigin → Members → Option Members) :
    List Text → TableOrigin → Members → Option Members
  | [], here, members => change here members
  | key :: path, _, members =>
    match members.find? key with
    | none => (changeAt origin change path origin []).map fun inner =>
        members.set key (.table origin inner)
    | some (.value _) => none
    | some (.table old inner) =>
      if origin = .dotted ∧ old = .header then none
      else (changeAt origin change path old inner).map fun inner =>
        members.set key (.table old inner)
    | some (.tables []) => none
    | some (.tables (last :: earlier)) =>
      (changeAt origin change path .header last).map fun last =>
        members.set key (.tables (last :: earlier))

/-- Adds an entry to a table. A dotted key has to end in a table that dotted keys made. -/
def addEntry (path : List Text) (key : Text) (v : ConfigValue) (members : Members) :
    Option Members :=
  changeAt .dotted
    (fun here members =>
      if decide (here = .dotted) == path.isEmpty then none
      else
        match members.find? key with
        | some _ => none
        | none => some (members.set key (.value v)))
    path .header members

/-- Adds the table of a header. It may have come about on the way to another header. -/
def addTable (path : List Text) (key : Text) (members : Members) : Option Members :=
  changeAt .path
    (fun _ members =>
      match members.find? key with
      | none => some (members.set key (.table .header []))
      | some (.table .path inner) => some (members.set key (.table .header inner))
      | some _ => none)
    path .header members

/-- Adds one more table to an array table. -/
def addArrayTable (path : List Text) (key : Text) (members : Members) : Option Members :=
  changeAt .path
    (fun _ members =>
      match members.find? key with
      | none => some (members.set key (.tables [[]]))
      | some (.tables elements) => some (members.set key (.tables ([] :: elements)))
      | some _ => none)
    path .header members

mutual

/-- The value that a node has grown to. -/
def Node.toValue : Node → ConfigValue
  | .value v => v
  | .table _ members => .table (membersToValues members)
  | .tables elements => .list (elementsToValues elements).reverse

/-- The values of some members. -/
def membersToValues : List (Text × Node) → List (Text × ConfigValue)
  | [] => []
  | (key, node) :: rest => (key, node.toValue) :: membersToValues rest

/-- The tables of an array table as values. -/
def elementsToValues : List (List (Text × Node)) → List ConfigValue
  | [] => []
  | members :: rest => .table (membersToValues members) :: elementsToValues rest

end

/-! ## Values -/

mutual

/-- The value that a text begins with, and the rest. At most `depth` further arrays and inline tables
may be open within each other. -/
def value? : (fuel depth : Nat) → Text → Option (ConfigValue × Text)
  | 0, _, _ => none
  | fuel + 1, depth, t =>
    match t with
    | '"' :: _ => (quoted? t).map fun found => (.text found.1, found.2)
    | '\'' :: _ => (quoted? t).map fun found => (.text found.1, found.2)
    | '[' :: t =>
      match depth with
      | 0 => none
      | depth + 1 => (items? fuel depth t).map fun found => (.list found.1, found.2)
    | '\x7b' :: t =>
      match depth with
      | 0 => none
      | depth + 1 => (inlineTable? fuel depth [] t).map fun found =>
          (.table (membersToValues found.1), found.2)
    | t => scalarAtStart? t

/-- The items of an array up to its closing bracket, and the rest. -/
def items? : (fuel depth : Nat) → Text → Option (List ConfigValue × Text)
  | 0, _, _ => none
  | fuel + 1, depth, t =>
    match skipTrivia false t with
    | none => none
    | some (']' :: t) => some ([], t)
    | some t =>
      match value? fuel depth t with
      | none => none
      | some (v, t) =>
        match skipTrivia false t with
        | some (',' :: t) => (items? fuel depth t).map fun found => (v :: found.1, found.2)
        | some (']' :: t) => some ([v], t)
        | _ => none

/-- The entries of an inline table up to its closing brace, added to some members, and the rest. -/
def inlineTable? : (fuel depth : Nat) → Members → Text → Option (Members × Text)
  | 0, _, _, _ => none
  | fuel + 1, depth, members, t =>
    match skipTrivia false t with
    | none => none
    | some ('\x7d' :: t) => some (members, t)
    | some t =>
      match keyValue? fuel depth t with
      | none => none
      | some (path, key, v, t) =>
        match addEntry path key v members with
        | none => none
        | some members =>
          match skipTrivia false t with
          | some (',' :: t) => inlineTable? fuel depth members t
          | some ('\x7d' :: t) => some (members, t)
          | _ => none

/-- An entry: the keys before the last one, the last key and the value, and the rest. -/
def keyValue? : (fuel depth : Nat) → Text → Option (List Text × Text × ConfigValue × Text)
  | 0, _, _ => none
  | fuel + 1, depth, t =>
    match dottedKey? (t.length + 1) t with
    | none => none
    | some (keys, rest) =>
      match keys.getLast?, rest with
      | some key, '=' :: rest =>
        (value? fuel depth (skipBlanks rest)).map fun found =>
          (keys.dropLast, key, found.1, found.2)
      | _, _ => none

end

/-- The number of arrays and inline tables that may be open within each other. -/
def depthLimit : Nat := 80

/-! ## Statements -/

/-- A statement of a document. -/
inductive Statement
  /-- Gives a value to a key. -/
  | entry (path : List Text) (key : Text) (value : ConfigValue)
  /-- Begins a table. -/
  | table (path : List Text) (key : Text)
  /-- Begins one more table of an array table. -/
  | arrayTable (path : List Text) (key : Text)

/-- The statement that a line begins with, and the rest of the line. -/
def statement? (t : Text) : Option (Statement × Text) :=
  match t with
  | '[' :: '[' :: t =>
    match dottedKey? (t.length + 1) t with
    | some (keys, ']' :: ']' :: rest) =>
      keys.getLast?.map fun key => (.arrayTable keys.dropLast key, rest)
    | _ => none
  | '[' :: t =>
    match dottedKey? (t.length + 1) t with
    | some (keys, ']' :: rest) => keys.getLast?.map fun key => (.table keys.dropLast key, rest)
    | _ => none
  | t =>
    (keyValue? (2 * t.length + 4) depthLimit t).map fun (path, key, v, rest) =>
      (.entry path key v, rest)

/-- The statements of a document. Each uses up at least one character. -/
def statements? : (fuel : Nat) → Text → Option (List Statement)
  | 0, _ => none
  | fuel + 1, t =>
    match skipTrivia false t with
    | none => none
    | some [] => some []
    | some t =>
      match statement? t with
      | none => none
      | some (s, rest) =>
        match lineEnd? rest with
        | none => none
        | some rest => (statements? fuel rest).map (s :: ·)

/-- Carries out statements. The keys of entries are read from the table that the last header
began. -/
def build? : (here : List Text) → Members → List Statement → Option Members
  | _, members, [] => some members
  | here, members, s :: rest =>
    match s with
    | .entry path key v =>
      match changeAt .path (fun _ inner => addEntry path key v inner) here .header members with
      | some members => build? here members rest
      | none => none
    | .table path key =>
      match addTable path key members with
      | some members => build? (path ++ [key]) members rest
      | none => none
    | .arrayTable path key =>
      match addArrayTable path key members with
      | some members => build? (path ++ [key]) members rest
      | none => none

/-- The table that a document describes. A byte order mark at its beginning does not count. -/
def parse? (t : Text) : Option ConfigValue :=
  let t :=
    match t with
    | '\uFEFF' :: t => t
    | t => t
  match statements? (t.length + 1) t with
  | none => none
  | some statements =>
    (build? [] [] statements).map fun members => .table (membersToValues members)

end StaticSite.Toml
