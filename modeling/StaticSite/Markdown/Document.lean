import StaticSite.Markdown.Block.Reader
import StaticSite.Markdown.Inline.Scan

/-!
# Events of a document

The events of a document are those of its blocks, with the texts of paragraphs, headings and table
cells read by the definitions of the whole document.
-/

namespace StaticSite.Markdown

/-- The definitions of a document. -/
def Document.definitions (d : Document) : Definitions where
  targets := d.targets.map fun (label, target) => (label.fold, target)
  notes := d.notes.map Text.fold

/-- An element with what it holds. -/
def element (e : Element) (inner : List Event) : List Event :=
  .start e :: inner ++ [.finish e]

/-- The box of a task, if there is one. -/
def taskEvents (task : Option Bool) : List Event :=
  (task.map Event.task).toList

/-- The events of the cells of a row. A row has as many cells as the table has columns. -/
def cellEvents (d : Definitions) : (columns : Nat) → List Text → List Event
  | 0, _ => []
  | columns + 1, [] => element .tableCell [] ++ cellEvents d columns []
  | columns + 1, cell :: cells =>
    element .tableCell (inlineEvents d cell) ++ cellEvents d columns cells

/-- The events of a table. -/
def tableEvents (d : Definitions) (alignments : List Alignment) (head : List Text)
    (rows : List (List Text)) : List Event :=
  let columns := alignments.length
  element (.table alignments) <|
    element .tableHead (cellEvents d columns head) ++
      rows.flatMap fun row => element .tableRow (cellEvents d columns row)

mutual

/-- The events of a block. The paragraphs that stand directly in an item of a tight list are not
marked as such. -/
def Block.events (d : Definitions) (tight : Bool) : Block → List Event
  | .paragraph task text =>
    let inner := taskEvents task ++ inlineEvents d text
    if tight then inner else element .paragraph inner
  | .heading level task text =>
    element (.heading level) (taskEvents task ++ inlineEvents d text)
  | .task done => [.task done]
  | .quote blocks => element .blockQuote (eventsOfAll d false blocks)
  | .code kind text =>
    element (.codeBlock kind) (if text.isEmpty then [] else [.text text])
  | .html text => element .htmlBlock [.html text]
  | .list start tight items => element (.list start) (eventsOfAll d tight items)
  | .item blocks => element .item (eventsOfAll d tight blocks)
  | .footnote label blocks => element (.footnote label) (eventsOfAll d false blocks)
  | .table alignments head rows => tableEvents d alignments head rows
  | .rule => [.rule]

/-- The events of blocks. -/
def eventsOfAll (d : Definitions) (tight : Bool) : List Block → List Event
  | [] => []
  | block :: blocks => block.events d tight ++ eventsOfAll d tight blocks

end

/-- The events of a document. -/
def Document.events (d : Document) : List Event :=
  eventsOfAll d.definitions false d.blocks

end StaticSite.Markdown
