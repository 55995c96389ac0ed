import StaticSite.Text.Basic

/-!
# Markdown events

A Markdown document is a sequence of events: elements start and end, and between the two stands what
they hold. The sequence is what the reader of a document makes and what the writer of HTML takes.
-/

namespace StaticSite.Markdown

/-- How the cells of a table column are aligned. -/
inductive Alignment
  | none
  | left
  | center
  | right
  deriving DecidableEq, Repr, Inhabited

/-- How a code block is marked in the document. -/
inductive CodeKind
  /-- By indentation. -/
  | indented
  /-- By fences, the first of which may name a language. -/
  | fenced (language : Text)
  deriving DecidableEq, Repr, Inhabited

/-- An element that holds other events. -/
inductive Element
  | paragraph
  | heading (level : Nat)
  | blockQuote
  | codeBlock (kind : CodeKind)
  | htmlBlock
  /-- A list; one with a number is ordered and counts from it. -/
  | list (start : Option Nat)
  | item
  | footnote (label : Text)
  | table (alignments : List Alignment)
  | tableHead
  | tableRow
  | tableCell
  | emphasis
  | strong
  | strikethrough
  | link (target title : Text)
  | image (target title : Text)
  deriving DecidableEq, Repr, Inhabited

/-- One step through a document. -/
inductive Event
  | start (element : Element)
  | finish (element : Element)
  /-- Text to be escaped. -/
  | text (t : Text)
  /-- Code in a line of text. -/
  | code (t : Text)
  /-- A piece of HTML between blocks. -/
  | html (t : Text)
  /-- A piece of HTML in a line of text. -/
  | inlineHtml (t : Text)
  /-- A reference to a footnote. -/
  | footnoteReference (label : Text)
  /-- A line break that does not matter. -/
  | softBreak
  /-- A line break that matters. -/
  | hardBreak
  | rule
  | task (done : Bool)
  deriving DecidableEq, Repr, Inhabited

end StaticSite.Markdown
