import StaticSite.Build.Error
import StaticSite.Page.Basic
import StaticSite.Placeholder.Substitute

/-!
# Filling in a page's values

Variables are filled in by `fillVariables`, post fields by `fillFields`, each in one pass over the
text. `fillPage` is one round of both. A value may itself hold placeholders; `settleFields` goes on
with such rounds until no post placeholder is left or a round changes nothing.
-/

namespace StaticSite

/-- Reads `@` placeholders as variables. -/
def variableResolver (vars : Bindings) : Resolver := fun p =>
  match p.sigil with
  | .value => vars.find? p.body
  | _ => none

/-- The text with each known variable filled in. -/
def fillVariables (vars : Bindings) (t : Text) : Text :=
  substitute (variableResolver vars) t

namespace Page

/-- The post fields of a page, by name. -/
def fields (p : Page) : List (Text × Text) :=
  [("post-title".toList, p.title),
    ("post-author".toList, p.author),
    ("post-date".toList, p.date),
    ("post-url".toList, p.outputPath),
    ("post-content".toList, p.content),
    ("post-preview".toList, p.preview),
    ("post-line".toList, p.line)]

/-- The value of a post field. -/
def field? (p : Page) (name : Text) : Option Text :=
  lookupEntry name p.fields

/-- Reads `#` placeholders as post fields. -/
def fieldResolver (p : Page) : Resolver := fun q =>
  match q.sigil with
  | .post => p.field? q.body
  | _ => none

/-- The text with each post field filled in. -/
def fillFields (p : Page) (t : Text) : Text :=
  substitute p.fieldResolver t

/-- One round: the page's variables, then its post fields. -/
def fillPage (p : Page) (t : Text) : Text :=
  p.fillFields (fillVariables p.bindings t)

end Page

/-- Whether a text has a `#` placeholder with an identifier between its braces. -/
def hasPostPlaceholder (t : Text) : Bool :=
  (scan t).any fun o => o.placeholder.sigil = .post && o.placeholder.identifier?.isSome

namespace Page

/-- Up to `rounds` more rounds, until no post placeholder is left or a round changes nothing. -/
def settleWithin (p : Page) (name : Text) : Nat → Text → Except BuildError Text
  | rounds, t =>
    if !hasPostPlaceholder t then .ok t
    else
      match rounds with
      | 0 => .error (.postFieldCycle name)
      | rounds + 1 =>
        let next := p.fillPage t
        if next = t then .ok t else settleWithin p name rounds next

/-- The rounds after which a page's values must have settled: without a circle, each round that
changes the text uses up a post field or a variable. -/
def roundLimit (p : Page) : Nat :=
  p.fields.length + p.bindings.size + 1

/-- The text with the page's values filled in until nothing is left to fill in. -/
def settleFields (p : Page) (name : Text) (t : Text) : Except BuildError Text :=
  p.settleWithin name p.roundLimit t

end Page

/-- Accepts a text without placeholders. -/
def checkFilled (page : Text) (t : Text) : Except BuildError Unit :=
  match firstPlaceholder? t with
  | some raw => .error (.unresolvedVariable page raw)
  | none => .ok ()

end StaticSite
