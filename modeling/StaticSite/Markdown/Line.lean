import StaticSite.Text.Basic

/-!
# Lines and indentation

A document is a sequence of lines. The structure of blocks depends on how far a line is indented,
where a tab leads to the next column that is a multiple of four. A `Cursor` stands in a line behind
what was read of it; a tab that was used up in part leaves spare columns.
-/

namespace StaticSite.Markdown

/-- A line of a document. -/
structure Line where
  /-- The text without the line end. -/
  text : Text
  /-- Whether a line end follows; only the last line may lack it. -/
  ended : Bool
  deriving DecidableEq, Repr, Inhabited

/-- A space or a tab. -/
def isSpaceOrTab (c : Char) : Bool :=
  c = ' ' || c = '\t'

/-- A character that leaves a line blank: a space, a tab, a vertical tab or a form feed. -/
def isBlankChar (c : Char) : Bool :=
  isSpaceOrTab c || c = '\x0b' || c = '\x0c'

/-- An ASCII character that leaves a line blank or ends it. -/
def isAsciiSpace (c : Char) : Bool :=
  isBlankChar c || c = '\n' || c = '\r'

/-- Whether a line with this text is blank. -/
def isBlank (t : Text) : Bool :=
  t.all isBlankChar

/-- The text without the blank characters at its end. -/
def trimEndBlank (t : Text) : Text :=
  (t.reverse.dropWhile isBlankChar).reverse

/-- Puts a character in front of the first line. -/
def Line.consFirst (c : Char) : List Line → List Line
  | [] => [⟨[c], false⟩]
  | line :: lines => { line with text := c :: line.text } :: lines

/-- The lines of a text. A line feed, a carriage return or both in this order end a line. -/
def linesOf : Text → List Line
  | [] => []
  | '\r' :: '\n' :: t => ⟨[], true⟩ :: linesOf t
  | '\r' :: t => ⟨[], true⟩ :: linesOf t
  | '\n' :: t => ⟨[], true⟩ :: linesOf t
  | c :: t => Line.consFirst c (linesOf t)

/-- The line end as it is written. -/
def Line.ending (line : Line) : Text :=
  if line.ended then ['\n'] else []

/-! ## Cursors -/

/-- A place in a line. -/
structure Cursor where
  /-- What is left of the line. -/
  rest : Text
  /-- The number of characters behind the last tab, or from the start of the line. -/
  column : Nat
  /-- The columns of the last tab that were not used up. -/
  spare : Nat
  deriving DecidableEq, Repr, Inhabited

namespace Cursor

/-- The start of a line. -/
def ofText (t : Text) : Cursor :=
  ⟨t, 0, 0⟩

/-- Uses up to `wanted` columns of spaces and tabs from a given column on; answers with the number
of columns that are missing and the place reached. -/
def skipFrom (wanted column : Nat) : Text → Nat × Cursor
  | [] => (wanted, ⟨[], column, 0⟩)
  | c :: t =>
    if wanted = 0 then (0, ⟨c :: t, column, 0⟩)
    else if c = ' ' then skipFrom (wanted - 1) (column + 1) t
    else if c = '\t' then
      let width := 4 - column % 4
      if wanted < width then (0, ⟨t, 0, width - wanted⟩) else skipFrom (wanted - width) 0 t
    else (wanted, ⟨c :: t, column, 0⟩)

/-- Uses up to `wanted` columns of spaces and tabs, the spare ones first; answers with the number of
columns that are missing and the place reached. -/
def skip (wanted : Nat) (c : Cursor) : Nat × Cursor :=
  if wanted ≤ c.spare then (0, { c with spare := c.spare - wanted })
  else skipFrom (wanted - c.spare) c.column c.rest

/-- The place behind the next `n` characters. -/
def advance (n : Nat) (c : Cursor) : Cursor :=
  { c with rest := c.rest.drop n, column := c.column + n }

/-- Whether the line ends here. -/
def atEnd (c : Cursor) : Bool :=
  c.rest.isEmpty

/-- The rest of the line with the spare columns in front of it. -/
def spacedRest (c : Cursor) : Text :=
  List.replicate c.spare ' ' ++ c.rest

end Cursor

end StaticSite.Markdown
