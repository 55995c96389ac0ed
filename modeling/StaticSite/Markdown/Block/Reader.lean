import StaticSite.Markdown.Block.Leaf

/-!
# Reading blocks

A document is read block by block. The reader keeps the containers that are open with what they hold
so far. Each step closes the containers that the next line does not continue, opens those that it
begins, and reads one leaf, which may take up more lines.

A list is tight until a blank line stands between two of its items or between two blocks of an item.
A list item may begin with one blank line; a second one closes it.
-/

namespace StaticSite.Markdown

/-- An open container and what it holds so far, the last block first. -/
structure Level where
  container : Container
  blocks : List Block

/-- A document that is being read. -/
structure Reader where
  /-- The open containers, the innermost first. -/
  levels : List Level := []
  /-- The finished blocks outside of open containers, the last one first. -/
  blocks : List Block := []
  /-- Whether a blank line was read since the last block. -/
  afterBlank : Bool := false
  /-- Whether the last list item began on a line without content. -/
  itemIsNew : Bool := false
  /-- The box of a task that waits for its paragraph. -/
  task : Option Bool := none
  /-- The targets that labels are defined to have, in their order. -/
  targets : List (Text × LinkTarget) := []
  /-- The labels of the footnotes, the last one first. -/
  notes : List Text := []

namespace Reader

/-- The open containers, the outermost first. -/
def containers (r : Reader) : List Container :=
  (r.levels.map Level.container).reverse

/-- Adds a finished block to the innermost container. -/
def add (r : Reader) (b : Block) : Reader :=
  match r.levels with
  | [] => { r with blocks := b :: r.blocks }
  | level :: outer => { r with levels := { level with blocks := b :: level.blocks } :: outer }

/-- Opens a container. -/
def push (r : Reader) (container : Container) : Reader :=
  { r with levels := ⟨container, []⟩ :: r.levels }

/-- Closes the innermost container. -/
def close (r : Reader) : Reader :=
  match r.levels with
  | [] => r
  | level :: outer =>
    let itemIsNew :=
      match level.container with
      | .list _ _ true => false
      | _ => r.itemIsNew
    { r with levels := outer, itemIsNew }.add (level.container.block level.blocks.reverse)

/-- Closes the innermost containers. -/
def closeMany (r : Reader) : Nat → Reader
  | 0 => r
  | n + 1 => r.close.closeMany n

/-! ## Lists -/

/-- Closes a list item that began without content and then had a blank line. -/
def finishNewItem (r : Reader) : Reader :=
  let r :=
    match r.levels with
    | ⟨.item _, _⟩ :: _ => if r.itemIsNew && r.afterBlank then r.close else r
    | _ => r
  { r with itemIsNew := false }

/-- The levels with a list made loose that is innermost. -/
def loosen : List Level → List Level
  | ⟨.list mark start _, blocks⟩ :: outer => ⟨.list mark start false, blocks⟩ :: outer
  | levels => levels

/-- Closes a list that is innermost, because something else begins. A blank line before it stands
between two blocks of the item around, if there is one. -/
def finishList (r : Reader) : Reader :=
  let r := r.finishNewItem
  let r :=
    match r.levels with
    | ⟨.list _ _ _, _⟩ :: _ => r.close
    | _ => r
  if r.afterBlank then
    let levels :=
      match r.levels with
      | inner :: outer => inner :: loosen outer
      | [] => []
    { r with levels, afterBlank := false }
  else r

/-- Opens a list. -/
def openList (r : Reader) (mark : ListMark) : Reader :=
  let start := if isOrderedMark mark.mark then some mark.number else none
  { r.push (.list mark.mark start true) with afterBlank := false }

/-- Goes on with the innermost list if it has the same mark; else begins a list. -/
def continueList (r : Reader) (mark : ListMark) : Reader :=
  let r := r.finishNewItem
  match r.levels with
  | [] => r.openList mark
  | ⟨.list existing _ _, _⟩ :: _ =>
    if existing = mark.mark then
      if r.afterBlank then { r with levels := loosen r.levels, afterBlank := false } else r
    else r.finishList.openList mark
  | _ => r.finishList.openList mark

/-! ## Opening containers -/

/-- How far a line was read: it is used up, or it goes on at a place. -/
inductive Progress
  | used (r : Reader)
  | at (r : Reader) (c : Cursor)

/-- The columns by which the content of a list item is indented, and the place where it begins. Four
or more blanks behind the mark belong to the content, but for one. -/
def itemIndent (indent : Nat) (mark : ListMark) (c : Cursor) : Nat × Cursor :=
  let (_, c) := (c.advance mark.width).skip 1
  let indent := indent + mark.width + 1
  if isBlank c.rest then (indent, c)
  else
    let (missing, deeper) := c.skip 4
    if missing = 0 then (indent, c) else (indent + (4 - missing), deeper)

/-- Opens a list item at its mark. -/
def openItem (r : Reader) (indent : Nat) (mark : ListMark) (c : Cursor) : Progress :=
  let (indent, c) := itemIndent indent mark c
  let r := (r.continueList mark).push (.item indent)
  if isBlank c.rest then .used { r with itemIsNew := true }
  else
    let (_, spaced) := c.skip 3
    match taskBox? spaced.rest with
    | none => .at r c
    | some done =>
      let c := spaced.advance 3
      if isBlank c.rest then .used { r.add (.task done) with itemIsNew := true }
      else .at { r with task := some done } c

/-- Opens a footnote. A footnote does not stand in another one directly. -/
def openNote (r : Reader) (label rest : Text) : Progress :=
  let r := r.finishList
  let r :=
    match r.levels with
    | ⟨.note _, _⟩ :: _ => r.close
    | _ => r
  let r := { r with notes := label :: r.notes }
  .at (r.push (.note label)) (Cursor.ofText (rest.dropWhile isBlankChar))

/-- Opens the containers that begin at a place. Each of the at most `fuel` containers uses up a
character at least. -/
def openContainers : (fuel : Nat) → Reader → Cursor → Progress
  | 0, r, c => .at r c
  | fuel + 1, r, c =>
    let (missing, spaced) := c.skip 4
    if missing = 0 then .at r c
    else
      let next :=
        match noteStart? spaced.rest with
        | some (label, rest) => some (r.openNote label rest)
        | none =>
          match if isRule spaced.rest then none else listMark? spaced.rest with
          | some mark => some (r.openItem (4 - missing) mark spaced)
          | none =>
            if spaced.rest.head? = some '>' then
              some (.at (r.finishList.push .quote) ((spaced.advance 1).skip 1).2)
            else none
      match next with
      | none => .at r c
      | some (.used r) => .used r
      | some (.at r c) => openContainers fuel r c

/-! ## Leaves -/

/-- Takes note of a blank line. An item that began without content cannot go on behind it. -/
def readBlank (r : Reader) : Reader :=
  match r.levels with
  | ⟨.quote, _⟩ :: _ => r
  | ⟨.item indent, blocks⟩ :: outer =>
    let indent := if r.itemIsNew then 0 else indent
    { r with levels := ⟨.item indent, blocks⟩ :: outer, afterBlank := true }
  | _ => { r with afterBlank := true }

/-- Reads indented code from the first of its lines on. -/
def readIndented (r : Reader) (c : Cursor) (ended : Bool) (lines : List Line) :
    Reader × List Line :=
  let (more, lines) := indentedLines r.containers lines
  let all := (c.spacedRest ++ Line.ending ⟨[], ended⟩, false) :: more
  let r := r.add (.code .indented (indentedCode all))
  ({ r with afterBlank := (all.getLast?.map Prod.snd).getD false }, lines)

/-- Reads a paragraph, or the heading or the table that it turns out to be. -/
def readParagraph (r : Reader) (t : Text) (ended : Bool) (lines : List Line) :
    Reader × List Line :=
  let containers := r.containers
  match tableColumns? containers t lines with
  | some alignments =>
    let (rows, lines) := tableRows containers (lines.drop 1)
    ({ r with task := none }.add (.table alignments (rowCells t) rows), lines)
  | none =>
    let (more, level, lines) := paragraphLines containers lines
    let text := paragraphText (⟨t, ended⟩ :: more)
    let block : Block :=
      match level with
      | some level => .heading level r.task text
      | none => .paragraph r.task text
    ({ r with task := none }.add block, lines)

/-- Remembers the target of a label, if the label has none yet. -/
def define (r : Reader) (d : LinkDefinition) : Reader :=
  { r with targets := r.targets ++ [(d.label, d.target)] }

/-- Reads a definition or a paragraph. -/
def readText (r : Reader) (t : Text) (ended : Bool) (lines : List Line) : Reader × List Line :=
  let whole :=
    match t with
    | '[' :: behind =>
      let (more, _, _) := paragraphLines r.containers lines
      let text := Text.join ['\n'] (behind :: more.map Line.text)
      (definition? text).map fun d => (d, more.length - d.rest.count '\n')
    | _ => none
  match whole with
  | some (d, count) => (r.define d, lines.drop count)
  | none => r.readParagraph t ended lines

/-- Reads the leaf that begins at a place. -/
def readLeaf (r : Reader) (c : Cursor) (ended : Bool) (lines : List Line) : Reader × List Line :=
  if isBlank c.rest then (r.readBlank, lines)
  else
    let (missing, spaced) := c.skip 4
    let r' := r.finishList
    if missing = 0 then r'.readIndented spaced ended lines
    else
      let t := spaced.rest
      let indent := 4 - missing
      match htmlStart? false t with
      | some stop =>
        let (html, lines) :=
          htmlLines r'.containers stop (List.replicate indent ' ' ++ t) ended lines
        (r'.add (.html html), lines)
      | none =>
        if isRule t then (r'.add .rule, lines)
        else
          match headingLevel? t with
          | some level => (r'.add (.heading level none (headingText (t.drop level))), lines)
          | none =>
            match fence? t with
            | some fence =>
              let (code, lines) := fencedCode r'.containers indent fence lines
              (r'.add (.code (.fenced (fenceLanguage (t.drop fence.count))) code), lines)
            | none => r'.readText t ended lines

/-! ## Documents -/

/-- Reads a line and the further lines of the leaf that begins on it. -/
def step (r : Reader) (line : Line) (lines : List Line) : Reader × List Line :=
  let (left, c) := Container.enterAll r.containers (Cursor.ofText line.text)
  let r := r.closeMany left.length
  match openContainers (line.text.length + 1) r c with
  | .used r => (r, lines)
  | .at r c => r.readLeaf c line.ended lines

/-- Reads lines in at most `fuel` steps. Each step uses up a line at least. -/
def run : (fuel : Nat) → Reader → List Line → Reader
  | _, r, [] => r
  | 0, r, _ => r
  | fuel + 1, r, line :: lines =>
    let (r, lines) := r.step line lines
    run fuel r lines

/-- The document read so far, with all containers closed. -/
def document (r : Reader) : Document :=
  let r := r.closeMany r.levels.length
  ⟨r.blocks.reverse, r.targets, r.notes⟩

end Reader

/-- The document that a text is. -/
def Document.ofText (t : Text) : Document :=
  let lines := linesOf t
  (Reader.run lines.length {} lines).document

end StaticSite.Markdown
