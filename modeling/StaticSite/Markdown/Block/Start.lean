import StaticSite.Markdown.Event
import StaticSite.Markdown.LinkTarget
import StaticSite.Markdown.Tag

/-!
# How blocks begin

The marks by which the kinds of blocks are known. Each test here looks at the rest of a line behind
its indentation.
-/

namespace StaticSite.Markdown

/-- The number of equal characters that a text begins with. -/
def countStart (c : Char) (t : Text) : Nat :=
  (t.takeWhile fun d => d == c).length

/-! ## Rules, headings and fences -/

/-- Whether a line is a rule: three or more of one mark, with nothing but spaces and tabs between. -/
def isRule : Text → Bool
  | [] => false
  | c :: t =>
    "*-_".toList.contains c && t.all (fun d => d == c || isSpaceOrTab d) &&
      3 ≤ ((c :: t).filter fun d => d == c).length

/-- The level of a heading that begins with number signs. -/
def headingLevel? (t : Text) : Option Nat :=
  let level := countStart '#' t
  let closed :=
    match t.drop level with
    | [] => true
    | c :: _ => isAsciiSpace c
  if 1 ≤ level && level ≤ 6 && closed then some level else none

/-- The text of a heading behind its number signs, without the closing ones. -/
def headingText (t : Text) : Text :=
  let text := t.dropWhile isBlankChar
  let trimmed := (text.reverse.dropWhile fun c => c == ' ').reverse
  let content := (trimmed.reverse.dropWhile fun c => c == '#').reverse
  if content.isEmpty then []
  else if content.getLast? = some ' ' then (content.reverse.dropWhile fun c => c == ' ').reverse
  else trimmed

/-- The level of the heading that a line makes of the paragraph before it. -/
def underlineLevel? : Text → Option Nat
  | [] => none
  | c :: t =>
    if isBlank (t.dropWhile fun d => d == c) then
      if c = '=' then some 1 else if c = '-' then some 2 else none
    else none

/-- A run of marks that opens a block of code. -/
structure Fence where
  mark : Char
  count : Nat
  deriving DecidableEq, Repr, Inhabited

/-- The fence that a line begins with. What stands behind a fence of backticks holds none. -/
def fence? : Text → Option Fence
  | [] => none
  | c :: t =>
    let count := countStart c (c :: t)
    if (c = '\x60' && '\x60' ∉ (c :: t).drop count || c = '~') && 3 ≤ count then some ⟨c, count⟩
    else none

/-- Whether a line closes a block of code. The last line of a document closes it when there is
nothing but indentation on it. -/
def Fence.closedBy (fence : Fence) (ended : Bool) (t : Text) : Bool :=
  if t.isEmpty && !ended then true
  else
    let count := countStart fence.mark t
    fence.count ≤ count && (t.drop count).all fun c => c == ' '

/-- The language that the text behind a fence names. -/
def fenceLanguage (t : Text) : Text :=
  resolveEscapes (trimEndBlank (t.dropWhile isBlankChar))

/-! ## Lists -/

/-- The mark of a list item. -/
structure ListMark where
  /-- The mark itself, or the one behind the number. -/
  mark : Char
  /-- The number of the item; zero for an item without one. -/
  number : Nat
  /-- The number of characters of the mark with its number. -/
  width : Nat
  deriving DecidableEq, Repr, Inhabited

/-- The list mark that a text begins with, if a space, a tab or the end of the line follows. -/
def listMark? : Text → Option ListMark
  | [] => none
  | c :: t =>
    let closed (rest : Text) : Bool :=
      match rest with
      | [] => true
      | d :: _ => isSpaceOrTab d
    if "-+*".toList.contains c then if closed t then some ⟨c, 0, 1⟩ else none
    else
      let digits := (c :: t).takeWhile Char.isDigit
      match Text.toNat? digits, (c :: t).drop digits.length with
      | some number, d :: rest =>
        if digits.length ≤ 9 && (d = '.' || d = ')') && closed rest then
          some ⟨d, number, digits.length + 1⟩
        else none
      | _, _ => none

/-- Whether a list mark has a number. -/
def isOrderedMark (mark : Char) : Bool :=
  mark = '.' || mark = ')'

/-- The box of a task that a text begins with, if a blank follows. -/
def taskBox? : Text → Option Bool
  | '[' :: c :: ']' :: d :: _ =>
    if !isBlankChar d then none
    else if c = 'x' || c = 'X' then some true
    else if isBlankChar c then some false
    else none
  | _ => none

/-- The label of the footnote that a text begins to define, and the text behind the colon. -/
def noteStart? : Text → Option (Text × Text)
  | '[' :: '^' :: t =>
    match noteLabel? t with
    | some (label, ':' :: rest) => some (label, rest)
    | _ => none
  | _ => none

/-! ## HTML -/

/-- The names of elements whose content is read up to the end tag. -/
def rawElements : List String :=
  ["pre", "style", "script", "textarea"]

/-- The names of elements that a block of HTML may begin with. -/
def blockElements : List String :=
  ["address", "article", "aside", "base", "basefont", "blockquote", "body", "caption", "center",
    "col", "colgroup", "dd", "details", "dialog", "dir", "div", "dl", "dt", "fieldset",
    "figcaption", "figure", "footer", "form", "frame", "frameset", "h1", "h2", "h3", "h4", "h5",
    "h6", "head", "header", "hr", "html", "iframe", "legend", "li", "link", "main", "menu",
    "menuitem", "nav", "noframes", "ol", "optgroup", "option", "p", "param", "search", "section",
    "summary", "table", "tbody", "td", "tfoot", "th", "thead", "title", "tr", "track", "ul"]

/-- How a block of HTML ends. -/
inductive HtmlEnd
  /-- With the line that holds a mark. -/
  | mark (t : Text)
  /-- Before a blank line. -/
  | blankLine
  deriving DecidableEq, Repr, Inhabited

/-- The mark that closes what an angle bracket opens, for HTML that runs up to such a mark; the text
begins behind the bracket. -/
def htmlEndMark? (t : Text) : Option Text :=
  let raw := rawElements.findSome? fun name =>
    match Text.dropStart? name.toList (Text.toLowerAscii t) with
    | none => none
    | some rest =>
      match rest with
      | [] => some ("</".toList ++ name.toList ++ ['>'])
      | c :: _ =>
        if isAsciiSpace c || c = '>' then some ("</".toList ++ name.toList ++ ['>']) else none
  match raw with
  | some mark => some mark
  | none =>
    match t with
    | '!' :: '-' :: '-' :: _ => some "-->".toList
    | '?' :: _ => some "?>".toList
    | '!' :: c :: rest =>
      if (Text.dropStart? "[CDATA[".toList (c :: rest)).isSome then some "]]>".toList
      else if c.isAlpha then some ['>'] else none
    | _ => none

/-- Whether a tag that may begin a block of HTML stands behind an angle bracket. -/
def startsBlockElement (t : Text) : Bool :=
  let t :=
    match t with
    | '/' :: rest => rest
    | t => t
  let name := t.takeWhile Char.isAlphanum
  let closed :=
    match t.drop name.length with
    | [] => true
    | '/' :: '>' :: _ => true
    | c :: _ => isSpaceOrTab c || c = '>'
  blockElements.any (fun e => e.toList = Text.toLowerAscii name) && closed

/-- Whether a tag stands behind an angle bracket, and nothing else on the line. -/
def isLoneTag (t : Text) : Bool :=
  match dropTag? false t with
  | some rest => isBlank rest
  | none => false

/-- How the block of HTML that a line begins ends, if it begins one. A lone tag begins one only
where no paragraph goes on. -/
def htmlStart? (inParagraph : Bool) : Text → Option HtmlEnd
  | '<' :: t =>
    match htmlEndMark? t with
    | some mark => some (.mark mark)
    | none =>
      if startsBlockElement t || (!inParagraph && isLoneTag t) then some .blankLine else none
  | _ => none

/-! ## Tables -/

/-- The pieces of a row between its bars. A bar behind a backslash stands for itself. -/
def splitBars : Text → List Text
  | [] => [[]]
  | '\\' :: '|' :: t =>
    match splitBars t with
    | [] => [['|']]
    | piece :: pieces => ('|' :: piece) :: pieces
  | c :: t =>
    match splitBars t with
    | [] => [[c]]
    | piece :: pieces => if c = '|' then [] :: piece :: pieces else (c :: piece) :: pieces

/-- The pieces of the head of a table between its bars, by which its columns are counted. What a
backslash escapes is no bar. -/
def splitHead : (escaped : Bool) → Text → List Text
  | _, [] => [[]]
  | escaped, c :: t =>
    match splitHead (!escaped && c = '\\') t with
    | [] => [[c]]
    | piece :: pieces =>
      if c = '|' && !escaped then [] :: piece :: pieces else (c :: piece) :: pieces

/-- The pieces without the blank ones outside of the bars at the two ends of a row. -/
def dropBlankEnds (pieces : List Text) : List Text :=
  let pieces :=
    match pieces with
    | first :: rest => if isBlank first && !rest.isEmpty then rest else pieces
    | [] => []
  match pieces.getLast? with
  | some last => if isBlank last then pieces.dropLast else pieces
  | none => []

/-- The texts of the cells of a row. The bars at its two ends make no cells. -/
def rowCells (t : Text) : List Text :=
  (dropBlankEnds (splitBars t)).map fun piece => trimEndBlank (piece.dropWhile isBlankChar)

/-- A column of the row below the head of a table, as far as it is read. -/
structure ColumnMark where
  alignment : Alignment
  /-- Whether nothing of the column was read. -/
  isFresh : Bool
  /-- Whether a hyphen was read. -/
  hasHyphen : Bool

/-- The column with a colon read. -/
def ColumnMark.colon (m : ColumnMark) : ColumnMark :=
  let alignment :=
    match m.isFresh, m.alignment with
    | true, .none => .left
    | false, .left => .center
    | false, .none => .right
    | _, other => other
  { m with alignment, isFresh := false }

/-- Reads the alignments of columns; `none` when the text is no such row. A bar closes a column,
which must have a hyphen. -/
def columnsFrom? (m : ColumnMark) : Text → Option (List Alignment)
  | [] => some (if m.isFresh then [] else [m.alignment])
  | c :: t =>
    if c = ' ' then columnsFrom? m t
    else if c = ':' then columnsFrom? m.colon t
    else if c = '-' then columnsFrom? { m with isFresh := false, hasHyphen := true } t
    else if c = '|' then
      if m.hasHyphen then (columnsFrom? ⟨.none, true, false⟩ t).map fun as => m.alignment :: as
      else none
    else none

/-- The alignments of the columns of a table, if a line is the row below the head of one: it has a
bar and a hyphen. -/
def columns? (t : Text) : Option (List Alignment) :=
  let (missing, cursor) := (Cursor.ofText t).skip 4
  let t := cursor.rest
  if missing = 0 || '|' ∉ t || '-' ∉ t then none
  else
    columnsFrom? ⟨.none, true, false⟩ <|
      match t with
      | '|' :: rest => rest
      | t => t

end StaticSite.Markdown
