import StaticSite.Markdown.Line

/-!
# Raw HTML

What counts as a piece of HTML in a document: tags, comments, processing instructions, declarations
and sections of character data. Each reader here starts behind an opening angle bracket and answers
with the text behind the closing one.
-/

namespace StaticSite.Markdown

/-- An ASCII letter, digit or hyphen. -/
def isTagNameChar (c : Char) : Bool :=
  c.isAlphanum || c = '-'

/-- The text behind a run of white space, which may hold line ends if `breaks` says so. -/
def dropTagSpace (breaks : Bool) (t : Text) : Text :=
  t.dropWhile fun c => isBlankChar c || (breaks && c = '\n')

/-- The text behind a tag name. -/
def dropTagName? : Text → Option Text
  | c :: t => if c.isAlpha then some (t.dropWhile isTagNameChar) else none
  | [] => none

/-- Whether an attribute name may begin with a character. -/
def isAttributeStart (c : Char) : Bool :=
  c.isAlpha || c = '_' || c = ':'

/-- Whether an attribute name may go on with a character. -/
def isAttributeChar (c : Char) : Bool :=
  c.isAlphanum || "_.:-".toList.contains c

/-- Whether a value without quotes may hold a character. -/
def isBareValueChar (c : Char) : Bool :=
  !"'\" =><\x60\n\r".toList.contains c

/-- The text behind a value in quotes. -/
def dropQuotedValue? (breaks : Bool) (quote : Char) : Text → Option Text
  | [] => none
  | c :: t =>
    if c = quote then some t
    else if c = '\n' && !breaks then none
    else dropQuotedValue? breaks quote t

/-- The text behind the value of an attribute. -/
def dropAttributeValue? (breaks : Bool) : Text → Option Text
  | [] => none
  | c :: t =>
    if c = '"' || c = '\'' then dropQuotedValue? breaks c t
    else if isBareValueChar c then some (t.dropWhile isBareValueChar)
    else none

/-- The text behind an attribute and its value, if it has one. -/
def dropAttribute? (breaks : Bool) : Text → Option Text
  | [] => none
  | c :: t =>
    if isAttributeStart c then
      let t := t.dropWhile isAttributeChar
      match dropTagSpace breaks t with
      | '=' :: value => dropAttributeValue? breaks (dropTagSpace breaks value)
      | _ => some t
    else none

/-- The text behind the attributes and the closing bracket of a tag. At most `fuel` attributes are
read; each has a character at least. -/
def dropAttributes? (breaks : Bool) : (fuel : Nat) → Text → Option Text
  | 0, _ => none
  | fuel + 1, t =>
    match dropTagSpace breaks t with
    | '>' :: rest => some rest
    | '/' :: '>' :: rest => some rest
    | '/' :: _ => none
    | spaced =>
      if spaced.length = t.length then none
      else (dropAttribute? breaks spaced).bind (dropAttributes? breaks fuel)

/-- The text behind an opening or a closing tag. -/
def dropTag? (breaks : Bool) : Text → Option Text
  | '/' :: t => do
    let t ← dropTagName? t
    match dropTagSpace breaks t with
    | '>' :: rest => some rest
    | _ => none
  | t => do
    let attributes ← dropTagName? t
    dropAttributes? breaks (attributes.length + 1) attributes

/-- The text behind the first occurrence of a closing mark. -/
def dropThrough? (mark : Text) (t : Text) : Option Text :=
  (Text.splitOnce? mark t).map Prod.snd

/-- The text behind a section of character data: behind its first closing square bracket may stand
more of them, then an angle bracket. -/
def dropCharacterData? (t : Text) : Option Text :=
  match t.dropWhile fun c => c != ']' with
  | [] => none
  | brackets =>
    match brackets.dropWhile fun c => c == ']' with
    | '>' :: rest => some rest
    | _ => none

/-- The text behind a piece of HTML in a line of text. -/
def dropInlineHtml? : Text → Option Text
  | '!' :: '-' :: '-' :: '>' :: t => some t
  | '!' :: '-' :: '-' :: '-' :: '>' :: t => some t
  | '!' :: '-' :: '-' :: t => dropThrough? "-->".toList t
  | '!' :: c :: t =>
    match Text.dropStart? "[CDATA[".toList (c :: t) with
    | some data => dropCharacterData? data
    | none => if c.isAlpha then dropThrough? ['>'] t else none
  | '?' :: t => dropThrough? "?>".toList t
  | t => dropTag? true t

end StaticSite.Markdown
