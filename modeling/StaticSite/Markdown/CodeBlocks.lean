import StaticSite.Markdown.Event

/-!
# Replacing code blocks

A code block between fences that names a language is written by a highlighter of its own.
`replaceCodeBlocks` goes through the events of a document and puts one piece of HTML in the place of
each such block, from its start through its end, or through the end of the document if the block is
not closed. All other events stay as they are.
-/

namespace StaticSite.Markdown

/-- The language that a code block starts with, if the event is the start of a code block between
fences that names one. -/
def namedLanguage? : Event → Option Text
  | .start (.codeBlock (.fenced language)) => if language.isEmpty then none else some language
  | _ => none

/-- Whether the event ends a code block. -/
def endsCodeBlock : Event → Bool
  | .finish (.codeBlock _) => true
  | _ => false

/-- The text of an event in a code block. -/
def codeText : Event → Text
  | .text t => t
  | _ => []

/-- A pass over the events of a document: outside of a code block, or in one with its language and
the text so far. -/
inductive CodePass
  | outside
  | inside (language code : Text)
  deriving DecidableEq, Repr

/-- The events that are left of a document when the pass is in a given state. -/
def CodePass.run (highlight : (language code : Text) → Text) : CodePass → List Event → List Event
  | .outside, [] => []
  | .inside language code, [] => [.html (highlight language code)]
  | .outside, e :: es =>
    match namedLanguage? e with
    | some language => run highlight (.inside language []) es
    | none => e :: run highlight .outside es
  | .inside language code, e :: es =>
    if endsCodeBlock e then .html (highlight language code) :: run highlight .outside es
    else run highlight (.inside language (code ++ codeText e)) es

/-- The events of a document with each code block that names a language replaced by the HTML that
`highlight` makes of the language and the code. -/
def replaceCodeBlocks (highlight : (language code : Text) → Text) (events : List Event) :
    List Event :=
  CodePass.run highlight .outside events

end StaticSite.Markdown
