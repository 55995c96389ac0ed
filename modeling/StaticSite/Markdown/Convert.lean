import StaticSite.Build.Outcome
import StaticSite.Markdown.CodeBlocks
import StaticSite.Markdown.Document
import StaticSite.Markdown.Highlight
import StaticSite.Markdown.Html

/-!
# Markdown to HTML

A text is read as a document, its code blocks are coloured, and its events are written as HTML.
-/

namespace StaticSite.Markdown

/-- The HTML of a Markdown text, with code in the colours of a theme. -/
def toHtml (theme : Theme) (t : Text) : Text :=
  Html.write (replaceCodeBlocks theme.highlight (Document.ofText t).events)

/-- The theme of a name; an unknown name is reported. -/
def chooseTheme (name : Text) : Outcome Theme :=
  match Theme.named? name with
  | some theme => .ok theme
  | none => ⟨[.unknownTheme name], .ok Theme.fallback⟩

end StaticSite.Markdown
