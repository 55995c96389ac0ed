import StaticSite.Markdown.CharacterReference
import StaticSite.Markdown.Line
import StaticSite.Text.Punctuation

/-!
# Labels and targets of links

A link names its target behind its text, as an address with an optional title in parentheses, or by
a label that a definition elsewhere gives an address and a title. The readers in this module take
the text behind an opening mark and answer with what they read and the text behind it.
-/

namespace StaticSite.Markdown

/-- Where a link leads. -/
structure LinkTarget where
  address : Text
  /-- The title; empty for a link without one. -/
  title : Text
  deriving DecidableEq, Repr, Inhabited

/-! ## Escapes -/

/-- The text with backslash escapes and character references resolved, where each of at most `fuel`
steps uses up a character at least. -/
def resolveWithin : (fuel : Nat) → Text → Text
  | 0, t => t
  | _, [] => []
  | fuel + 1, '\\' :: c :: t =>
    if isAsciiPunctuation c then c :: resolveWithin fuel t else '\\' :: resolveWithin fuel (c :: t)
  | fuel + 1, '&' :: t =>
    match reference? t with
    | some (chars, rest) => chars ++ resolveWithin fuel rest
    | none => '&' :: resolveWithin fuel t
  | fuel + 1, c :: t => c :: resolveWithin fuel t

/-- The text with backslash escapes and character references resolved. -/
def resolveEscapes (t : Text) : Text :=
  resolveWithin t.length t

/-! ## Labels -/

/-- The raw text of a label and the text behind its closing bracket. A label holds no bracket that
is not escaped. -/
def rawLabel? : Text → Option (Text × Text)
  | [] => none
  | ']' :: t => some ([], t)
  | '[' :: _ => none
  | '\\' :: c :: t => (rawLabel? t).map fun (label, rest) => ('\\' :: c :: label, rest)
  | c :: t => (rawLabel? t).map fun (label, rest) => (c :: label, rest)

/-- The text with each run of white space made one space. -/
def collapseSpaces : Text → Text
  | [] => []
  | c :: t =>
    if isAsciiSpace c then
      match t with
      | [] => [' ']
      | d :: _ => if isAsciiSpace d then collapseSpaces t else ' ' :: collapseSpaces t
    else c :: collapseSpaces t

/-- Reads a label behind its opening bracket. It may run over lines if `breaks` says so, and is more
than white space. -/
def label? (breaks : Bool) (t : Text) : Option (Text × Text) := do
  let (raw, rest) ← rawLabel? t
  if raw.all isAsciiSpace || (!breaks && '\n' ∈ raw) then none
  else some (collapseSpaces raw, rest)

/-- Reads the label of a footnote behind its opening bracket and caret. -/
def noteLabel? (t : Text) : Option (Text × Text) :=
  label? false t

/-! ## Addresses and titles -/

/-- The deepest nesting of parentheses in an address without angle brackets. -/
def parenthesisLimit : Nat := 32

/-- The raw text of an address in angle brackets and the text behind it. -/
def angleAddress? : Text → Option (Text × Text)
  | [] => none
  | '>' :: t => some ([], t)
  | '<' :: _ => none
  | '\n' :: _ => none
  | '\\' :: c :: t =>
    if isAsciiPunctuation c then
      (angleAddress? t).map fun (address, rest) => ('\\' :: c :: address, rest)
    else (angleAddress? (c :: t)).map fun (address, rest) => ('\\' :: address, rest)
  | c :: t => (angleAddress? t).map fun (address, rest) => (c :: address, rest)

/-- The raw text of an address without angle brackets, inside of `depth` parentheses, and the text
behind it. It ends at a blank or at a parenthesis that it did not open. -/
def bareAddress? : (depth : Nat) → Text → Option (Text × Text)
  | depth, [] => if depth = 0 then some ([], []) else none
  | depth, '\\' :: c :: t =>
    if isAsciiPunctuation c then
      (bareAddress? depth t).map fun (address, rest) => ('\\' :: c :: address, rest)
    else (bareAddress? depth (c :: t)).map fun (address, rest) => ('\\' :: address, rest)
  | depth, c :: t =>
    if c.toNat ≤ 32 then if depth = 0 then some ([], c :: t) else none
    else if c = '(' then
      if parenthesisLimit < depth then none
      else (bareAddress? (depth + 1) t).map fun (address, rest) => (c :: address, rest)
    else if c = ')' then
      match depth with
      | 0 => some ([], c :: t)
      | depth + 1 => (bareAddress? depth t).map fun (address, rest) => (c :: address, rest)
    else (bareAddress? depth t).map fun (address, rest) => (c :: address, rest)

/-- Reads the raw text of an address. -/
def address? : Text → Option (Text × Text)
  | '<' :: t => angleAddress? t
  | t => bareAddress? 0 t

/-- The raw text of a title up to its closing mark, and the text behind that. A title in parentheses
holds no opening one. -/
def titleUntil? (opening closing : Char) : Text → Option (Text × Text)
  | [] => none
  | '\\' :: c :: t =>
    if isAsciiPunctuation c then
      (titleUntil? opening closing t).map fun (title, rest) => ('\\' :: c :: title, rest)
    else (titleUntil? opening closing (c :: t)).map fun (title, rest) => ('\\' :: title, rest)
  | c :: t =>
    if c = closing then some ([], t)
    else if c = opening then none
    else (titleUntil? opening closing t).map fun (title, rest) => (c :: title, rest)

/-- The text without the indentation of its lines behind the first one. -/
def dropIndents : (atStart : Bool) → Text → Text
  | _, [] => []
  | atStart, c :: t =>
    if atStart && isSpaceOrTab c then dropIndents true t else c :: dropIndents (c = '\n') t

/-- Reads a title in quotes or parentheses. -/
def title? : Text → Option (Text × Text)
  | [] => none
  | c :: t =>
    let closing? :=
      if c = '"' || c = '\'' then some c else if c = '(' then some ')' else none
    match closing? with
    | none => none
    | some closing =>
      (titleUntil? c closing t).map fun (title, rest) =>
        (resolveEscapes (dropIndents false title), rest)

/-! ## Targets behind the text of a link -/

/-- The text behind blanks with at most one line end among them. -/
def dropSeparator (t : Text) : Text :=
  match t.dropWhile isBlankChar with
  | '\n' :: rest => rest.dropWhile isBlankChar
  | rest => rest

/-- Reads a target in parentheses behind the text of a link. -/
def inlineTarget? : Text → Option (LinkTarget × Text)
  | '(' :: t => do
    let (address, rest) ← address? (dropSeparator t)
    let rest := dropSeparator rest
    let (title, rest) :=
      match title? rest with
      | some (title, rest) => (title, dropSeparator rest)
      | none => ([], rest)
    match rest with
    | ')' :: rest => some (⟨resolveEscapes address, title⟩, rest)
    | _ => none
  | _ => none

/-! ## Definitions -/

/-- A definition of a label, with the text from the end of its last line on. -/
structure LinkDefinition where
  label : Text
  target : LinkTarget
  rest : Text

/-- The rest of a text from the end of its first line on, if that line holds nothing more. -/
def blankThroughLine? (t : Text) : Option Text :=
  match t.dropWhile isBlankChar with
  | [] => some []
  | '\n' :: rest => some ('\n' :: rest)
  | _ => none

/-- Reads the title of a definition behind its address, where nothing else may stand on the line. A
title on the next line that does not work out is no part of the definition. -/
def definitionTitle? (rest : Text) : Option (Text × Text) :=
  match rest.dropWhile isBlankChar with
  | [] => some ([], [])
  | '\n' :: next =>
    match title? (next.dropWhile isBlankChar) with
    | none => some ([], '\n' :: next)
    | some (title, behind) =>
      match blankThroughLine? behind with
      | none => some ([], '\n' :: next)
      | some behind => some (title, behind)
  | spaced =>
    if spaced.length = rest.length then none
    else do
      let (title, behind) ← title? spaced
      let behind ← blankThroughLine? behind
      some (title, behind)

/-- Reads a definition behind its opening bracket. -/
def definition? (t : Text) : Option LinkDefinition := do
  let (label, rest) ← label? true t
  match rest with
  | ':' :: rest =>
    let spaced := dropSeparator rest
    let (address, rest) ← address? spaced
    let (title, behind) ← definitionTitle? rest
    if rest.length = spaced.length then none
    else some ⟨label, ⟨resolveEscapes address, title⟩, behind⟩
  | _ => none

end StaticSite.Markdown
