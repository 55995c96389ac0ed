import StaticSite.Markdown.Event
import StaticSite.Markdown.LinkTarget

/-!
# Blocks

The structure of a document before its lines of text are read: a tree of blocks, where the text of a
paragraph, a heading or a table cell is kept as it stands in the document. What the texts mean
depends on the definitions of the whole document, so a document has these beside its blocks.
-/

namespace StaticSite.Markdown

/-- A block of a document. -/
inductive Block
  /-- A paragraph, which may begin with the box of a task. -/
  | paragraph (task : Option Bool) (text : Text)
  /-- A heading, which may begin with the box of a task. -/
  | heading (level : Nat) (task : Option Bool) (text : Text)
  /-- The box of a task with nothing behind it. -/
  | task (done : Bool)
  | quote (blocks : List Block)
  | code (kind : CodeKind) (text : Text)
  /-- HTML as it stands in the document. -/
  | html (text : Text)
  /-- A list of items. The paragraphs of a tight list are not marked as such. -/
  | list (start : Option Nat) (tight : Bool) (items : List Block)
  | item (blocks : List Block)
  | footnote (label : Text) (blocks : List Block)
  /-- A table with the texts of its cells. -/
  | table (alignments : List Alignment) (head : List Text) (rows : List (List Text))
  | rule
  deriving Inhabited

/-- A document: its blocks, and what it defines. -/
structure Document where
  blocks : List Block
  /-- The targets that labels are defined to have; of two with one label the first counts. -/
  targets : List (Text × LinkTarget)
  /-- The labels of the footnotes. -/
  notes : List Text
  deriving Inhabited

end StaticSite.Markdown
