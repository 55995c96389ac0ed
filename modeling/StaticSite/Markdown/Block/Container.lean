import StaticSite.Markdown.Block.Basic

/-!
# Containers

Blocks that hold other blocks stay open while line after line belongs to them. A line says of each
open container, from the outermost one on, whether it goes on: by the mark of a quotation, or by
enough indentation. A list goes on as long as nothing else begins in its place.
-/

namespace StaticSite.Markdown

/-- A block that is open for other blocks. -/
inductive Container
  | quote
  /-- A list with the mark of its items. -/
  | list (mark : Char) (start : Option Nat) (tight : Bool)
  /-- An item of a list, whose lines are indented by a number of columns. -/
  | item (indent : Nat)
  | note (label : Text)
  deriving DecidableEq, Repr, Inhabited

namespace Container

/-- The columns by which the lines of a footnote are indented. -/
def noteIndent : Nat := 4

/-- The place behind a number of columns; a line that ends before that goes on as well. -/
def enterIndented? (indent : Nat) (c : Cursor) : Option Cursor :=
  let (missing, c) := c.skip indent
  if missing = 0 || c.atEnd then some c else none

/-- The place in a line behind what continues a container, if the line does. -/
def enter? (c : Cursor) : Container → Option Cursor
  | quote =>
    let (_, c) := c.skip 3
    match c.rest with
    | '>' :: _ => some ((c.advance 1).skip 1).2
    | _ => none
  | list _ _ _ => some c
  | item indent => enterIndented? indent c
  | note _ => enterIndented? noteIndent c

/-- Enters containers, the outermost first; answers with those that the line does not continue and
the place reached. -/
def enterAll : List Container → Cursor → List Container × Cursor
  | [], c => ([], c)
  | container :: inner, c =>
    match container.enter? c with
    | some c => enterAll inner c
    | none => (container :: inner, c)

/-- The place in a line behind the containers, if it continues all of them. -/
def enterEvery? (containers : List Container) (t : Text) : Option Cursor :=
  match enterAll containers (Cursor.ofText t) with
  | ([], c) => some c
  | _ => none

/-- The block of a container with what it holds. -/
def block (blocks : List Block) : Container → Block
  | quote => .quote blocks
  | list _ start tight => .list start tight blocks
  | item _ => .item blocks
  | note label => .footnote label blocks

end Container

end StaticSite.Markdown
