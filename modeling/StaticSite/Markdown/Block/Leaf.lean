import StaticSite.Markdown.Block.Container
import StaticSite.Markdown.Block.Start

/-!
# The lines of a leaf

Blocks that hold no other blocks take their lines from the document one after the other. Each
function here takes the containers that are open, the outermost first, and the lines from some line
on; it answers with what the leaf gets of them and the lines behind it.
-/

namespace StaticSite.Markdown

/-- Whether nothing of the document is left at a place in its last line. -/
def isDocumentEnd (line : Line) (c : Cursor) : Bool :=
  c.atEnd && !line.ended

/-! ## Code and HTML -/

/-- The code between a fence and the line that closes it. Lines lose as much indentation as the
fence has. -/
def fencedCode (containers : List Container) (indent : Nat) (fence : Fence) :
    List Line → Text × List Line
  | [] => ([], [])
  | line :: lines =>
    match Container.enterEvery? containers line.text with
    | none => ([], line :: lines)
    | some c =>
      let (_, c) := c.skip indent
      let (missing, closing) := c.skip (4 - indent)
      if missing ≠ 0 && fence.closedBy line.ended closing.rest then ([], lines)
      else
        let (code, lines) := fencedCode containers indent fence lines
        (c.spacedRest ++ line.ending ++ code, lines)

/-- The lines of indented code, each with whether it is blank. -/
def indentedLines (containers : List Container) : List Line → List (Text × Bool) × List Line
  | [] => ([], [])
  | line :: lines =>
    match Container.enterEvery? containers line.text with
    | none => ([], line :: lines)
    | some c =>
      let (missing, c) := c.skip 4
      if (missing ≠ 0 && !c.atEnd) || isDocumentEnd line c then ([], line :: lines)
      else
        let (more, lines) := indentedLines containers lines
        ((c.spacedRest ++ line.ending, isBlank c.rest) :: more, lines)

/-- The text of indented code: blank lines at its end do not count. -/
def indentedCode (lines : List (Text × Bool)) : Text :=
  ((lines.reverse.dropWhile Prod.snd).reverse.map Prod.fst).flatten

/-- A block of HTML from a line on, which is given behind its containers. -/
def htmlLines (containers : List Container) (stop : HtmlEnd) (first : Text) (ended : Bool) :
    List Line → Text × List Line
  | [] => (first ++ Line.ending ⟨[], ended⟩, [])
  | line :: lines =>
    let done := (first ++ ['\n'], line :: lines)
    let isLast :=
      match stop with
      | .mark t => Text.contains t first
      | .blankLine => false
    match Container.enterEvery? containers line.text with
    | none => done
    | some c =>
      if isLast || isDocumentEnd line c || (stop = .blankLine && isBlank c.rest) then done
      else
        let (html, lines) := htmlLines containers stop c.spacedRest line.ended lines
        (first ++ ['\n'] ++ html, lines)

/-! ## Paragraphs -/

/-- Whether a list item that begins on a line of a paragraph ends it. In the containers of the
paragraph, one with a number other than one does not, nor does one without content before a blank
line. -/
def itemInterrupts (sameContainers : Bool) (t : Text) (lines : List Line) : Bool :=
  match listMark? t with
  | none => false
  | some mark =>
    let isEmpty :=
      isBlank (t.drop mark.width) &&
        match lines with
        | [] => true
        | next :: _ => isBlank next.text
    !sameContainers || ((!isOrderedMark mark.mark || mark.number = 1) && !isEmpty)

/-- Whether a line ends the paragraph or the table before it; `t` is the line behind its
indentation. -/
def interrupts (sameContainers : Bool) (t : Text) (lines : List Line) : Bool :=
  t.isEmpty || isRule t || (headingLevel? t).isSome || (fence? t).isSome || t.head? = some '>' ||
    itemInterrupts sameContainers t lines || (htmlStart? true t).isSome || (noteStart? t).isSome

/-- The alignments of the columns of a table whose head is given, if the next line says so. -/
def tableColumns? (containers : List Container) (head : Text) : List Line → Option (List Alignment)
  | [] => none
  | line :: _ =>
    match (Container.enterEvery? containers line.text).bind fun c => columns? c.rest with
    | none => none
    | some alignments =>
      let pieces := splitHead false head
      if 2 ≤ pieces.length && alignments.length = (dropBlankEnds pieces).length then
        some alignments
      else none

/-- What a line is to the paragraph before it. -/
inductive Continuation
  /-- It does not belong to the paragraph. -/
  | none
  /-- It makes the paragraph a heading. -/
  | underline (level : Nat)
  /-- It belongs to the paragraph, with this text. -/
  | text (t : Text)
  deriving DecidableEq, Repr, Inhabited

/-- What a line is to the paragraph before it. A line that belongs to it need not continue its
containers. -/
def continuation (containers : List Container) (line : Line) (lines : List Line) : Continuation :=
  let (left, c) := Container.enterAll containers (Cursor.ofText line.text)
  let (missing, indented) := c.skip 4
  let t := indented.rest
  let stops :=
    missing ≠ 0 &&
      (interrupts left.isEmpty t lines ||
        (t.head? = some '|' && (tableColumns? containers t lines).isSome))
  match if missing ≠ 0 && left.isEmpty then underlineLevel? t else .none with
  | some level => .underline level
  | .none => if stops || t.all isSpaceOrTab then .none else .text c.rest

/-- The lines that continue a paragraph, with the level if it turns out to be a heading. -/
def paragraphLines (containers : List Container) :
    List Line → List Line × Option Nat × List Line
  | [] => ([], .none, [])
  | line :: lines =>
    match continuation containers line lines with
    | .none => ([], .none, line :: lines)
    | .underline level => ([], some level, lines)
    | .text t =>
      let (more, level, lines) := paragraphLines containers lines
      (⟨t, line.ended⟩ :: more, level, lines)

/-- The text of a paragraph. The blanks at its end do not count, unless the document ends there. -/
def paragraphText (lines : List Line) : Text :=
  let t := Text.join ['\n'] (lines.map Line.text)
  match lines.getLast? with
  | some ⟨_, true⟩ => trimEndBlank t
  | _ => t

/-- The rows of a table. -/
def tableRows (containers : List Container) : List Line → List (List Text) × List Line
  | [] => ([], [])
  | line :: lines =>
    match Container.enterEvery? containers line.text with
    | none => ([], line :: lines)
    | some c =>
      let t := c.rest.dropWhile isSpaceOrTab
      if interrupts true t lines then ([], line :: lines)
      else
        let (rows, lines) := tableRows containers lines
        (rowCells t :: rows, lines)

end StaticSite.Markdown
