import StaticSite.Page.Listing
import StaticSite.Template.Store

/-!
# Rendering a page

A page is rendered in five steps: its template with all includes, the page's own variables, the list
blocks, the post fields of the page, and the global variables. What is left of placeholders after
that is an error, so a rendered page holds none.
-/

namespace StaticSite

/-- A finished page and its path in the destination. -/
structure RenderedPage where
  path : Path
  content : Text
  deriving DecidableEq, Repr, Inhabited

/-- The values that a rendered page draws on beside its template. -/
structure RenderContext where
  /-- The pages that list blocks select from. -/
  pages : PageSet
  globals : Bindings
  /-- The number of list blocks that may be expanded for one page. -/
  expansions : Nat

/-- The text of a page made from the expanded text of its template. -/
def fillTemplate (context : RenderContext) (name : Text) (page : Page) (template : Text) :
    Outcome Text := do
  let listed ← expandLists context.expansions context.pages (fillVariables page.bindings template)
  let settled ← Outcome.ofExcept (page.settleFields name listed)
  let filled := fillVariables context.globals settled
  Outcome.ofExcept (checkFilled name filled)
  pure filled

/-- Renders a page. -/
def renderPage (files : FileSystem) (context : RenderContext) (name : Text) (page : Page) :
    Stage TemplateStore RenderedPage := do
  let template ← TemplateStore.expand files page.template
  let content ← Stage.lift (fillTemplate context name page template)
  pure ⟨page.outputPath, content⟩

end StaticSite
