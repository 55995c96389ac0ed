import StaticSite.Markdown.Escape
import StaticSite.Markdown.Event

/-!
# HTML of Markdown events

`Html.write` writes the events of a document one after the other. What an event becomes depends on
little of what was written before: whether the last line is complete, the place in a table, the
numbers of the footnotes so far, and whether an image is open, whose content becomes the text that
stands for it.
-/

namespace StaticSite.Markdown.Html

/-- An image whose content is being read. -/
structure OpenImage where
  /-- The number of elements open in the image. -/
  depth : Nat
  title : Text

/-- A document that is being written. -/
structure Writer where
  /-- What was written, the last piece first. -/
  pieces : List Text := []
  /-- Whether the last line is complete. -/
  atLineStart : Bool := true
  /-- Whether the head of a table is being written. -/
  inHead : Bool := true
  /-- The alignments of the columns of the last table. -/
  alignments : List Alignment := []
  /-- The number of cells before the next one in its row. -/
  column : Nat := 0
  /-- The labels of the footnotes in the order of their numbers. -/
  footnotes : List Text := []
  /-- The image whose content is being read. -/
  image : Option OpenImage := none

namespace Writer

/-- Writes a piece and takes note of whether it completes a line. -/
def put (w : Writer) (t : Text) : Writer :=
  { w with
    pieces := t :: w.pieces
    atLineStart := if t.isEmpty then w.atLineStart else t.getLast? = some '\n' }

/-- Writes a fixed piece. -/
def puts (w : Writer) (s : String) : Writer :=
  w.put s.toList

/-- Writes a piece on a new line. -/
def putsOnNewLine (w : Writer) (s : String) : Writer :=
  if w.atLineStart then w.puts s else (w.puts "\n").puts s

/-- Writes a piece without taking note of lines. -/
def putRaw (w : Writer) (t : Text) : Writer :=
  { w with pieces := t :: w.pieces }

/-- Writes text of the document, whose last character decides about the line. -/
def putText (w : Writer) (t : Text) (escaped : Text) : Writer :=
  { w.putRaw escaped with atLineStart := t.getLast? = some '\n' }

/-- The number of a footnote, which it gets when its label is met first. -/
def number (w : Writer) (label : Text) : Nat × Writer :=
  match w.footnotes.idxOf? label with
  | some i => (i + 1, w)
  | none => (w.footnotes.length + 1, { w with footnotes := w.footnotes ++ [label] })

/-- Writes the title of a link or an image, if it has one. -/
def putTitle (w : Writer) (title : Text) : Writer :=
  if title.isEmpty then w else (w.puts "\" title=\"").putRaw (escapeAttribute title)

/-- Writes the start of an element. -/
def startElement (w : Writer) : Element → Writer
  | .paragraph => w.putsOnNewLine "<p>"
  | .heading level => ((w.putsOnNewLine "<h").put (Text.ofNat level)).puts ">"
  | .blockQuote => w.putsOnNewLine "<blockquote>\n"
  | .codeBlock kind =>
    let w := if w.atLineStart then w else w.puts "\n"
    match kind with
    | .indented => w.puts "<pre><code>"
    | .fenced language =>
      let name := language.takeWhile fun c => c != ' '
      if name.isEmpty then w.puts "<pre><code>"
      else ((w.puts "<pre><code class=\"language-").putRaw (escapeAttribute name)).puts "\">"
  | .htmlBlock => w
  | .list none => w.putsOnNewLine "<ul>\n"
  | .list (some 1) => w.putsOnNewLine "<ol>\n"
  | .list (some n) => ((w.putsOnNewLine "<ol start=\"").putRaw (Text.ofNat n)).puts "\">\n"
  | .item => w.putsOnNewLine "<li>"
  | .footnote label =>
    let w := (w.putsOnNewLine "<div class=\"footnote-definition\" id=\"").putRaw
      (escapeAttribute label)
    let (n, w) := (w.puts "\"><sup class=\"footnote-definition-label\">").number label
    (w.putRaw (Text.ofNat n)).puts "</sup>"
  | .table alignments => { w with alignments := alignments }.puts "<table>"
  | .tableHead => { w with inHead := true, column := 0 }.puts "<thead><tr>"
  | .tableRow => { w with column := 0 }.puts "<tr>"
  | .tableCell =>
    let w := w.puts (if w.inHead then "<th" else "<td")
    match w.alignments[w.column]? with
    | some .left => w.puts " style=\"text-align: left\">"
    | some .center => w.puts " style=\"text-align: center\">"
    | some .right => w.puts " style=\"text-align: right\">"
    | _ => w.puts ">"
  | .emphasis => w.puts "<em>"
  | .strong => w.puts "<strong>"
  | .strikethrough => w.puts "<del>"
  | .link target title =>
    (((w.puts "<a href=\"").putRaw (escapeAddress target)).putTitle title).puts "\">"
  | .image target title =>
    let w := ((w.puts "<img src=\"").putRaw (escapeAddress target)).puts "\" alt=\""
    { w with image := some ⟨0, title⟩ }

/-- Writes the end of an element. -/
def finishElement (w : Writer) : Element → Writer
  | .paragraph => w.puts "</p>\n"
  | .heading level => ((w.puts "</h").put (Text.ofNat level)).puts ">\n"
  | .blockQuote => w.puts "</blockquote>\n"
  | .codeBlock _ => w.puts "</code></pre>\n"
  | .htmlBlock => w
  | .list none => w.puts "</ul>\n"
  | .list (some _) => w.puts "</ol>\n"
  | .item => w.puts "</li>\n"
  | .footnote _ => w.puts "</div>\n"
  | .table _ => w.puts "</tbody></table>\n"
  | .tableHead => { w.puts "</tr></thead><tbody>\n" with inHead := false }
  | .tableRow => w.puts "</tr>\n"
  | .tableCell =>
    { w.puts (if w.inHead then "</th>" else "</td>") with column := w.column + 1 }
  | .emphasis => w.puts "</em>"
  | .strong => w.puts "</strong>"
  | .strikethrough => w.puts "</del>"
  | .link _ _ => w.puts "</a>"
  | .image _ _ => w

/-- Writes an event outside of images. -/
def writeEvent (w : Writer) : Event → Writer
  | .start element => w.startElement element
  | .finish element => w.finishElement element
  | .text t => w.putText t (escapeBody t)
  | .code t => ((w.puts "<code>").putRaw (escapeBody t)).puts "</code>"
  | .html t => w.put t
  | .inlineHtml t => w.put t
  | .footnoteReference label =>
    let w := (w.puts "<sup class=\"footnote-reference\"><a href=\"#").putRaw (escapeAttribute label)
    let (n, w) := (w.puts "\">").number label
    (w.putRaw (Text.ofNat n)).puts "</a></sup>"
  | .softBreak => w.puts "\n"
  | .hardBreak => w.puts "<br />\n"
  | .rule => w.putsOnNewLine "<hr />\n"
  | .task true => w.puts "<input disabled=\"\" type=\"checkbox\" checked=\"\"/>\n"
  | .task false => w.puts "<input disabled=\"\" type=\"checkbox\"/>\n"

/-- Writes an event in an image: its text alone, until the image ends. -/
def writeAlternative (w : Writer) (image : OpenImage) : Event → Writer
  | .start _ => { w with image := some { image with depth := image.depth + 1 } }
  | .finish _ =>
    match image.depth with
    | 0 => ({ w with image := none }.putTitle image.title).puts "\" />"
    | depth + 1 => { w with image := some { image with depth } }
  | .html _ => w
  | .text t => w.putText t (escapeAttribute t)
  | .code t => w.putText t (escapeAttribute t)
  | .inlineHtml t => w.putText t (escapeAttribute t)
  | .softBreak | .hardBreak | .rule => w.puts " "
  | .footnoteReference label =>
    let (n, w) := w.number label
    w.putRaw (['['] ++ Text.ofNat n ++ [']'])
  | .task true => w.puts "[x]"
  | .task false => w.puts "[ ]"

/-- Writes an event. -/
def step (w : Writer) (e : Event) : Writer :=
  match w.image with
  | none => w.writeEvent e
  | some image => w.writeAlternative image e

end Writer

/-- The HTML of a document. -/
def write (events : List Event) : Text :=
  (events.foldl Writer.step {}).pieces.reverse.flatten

end StaticSite.Markdown.Html
