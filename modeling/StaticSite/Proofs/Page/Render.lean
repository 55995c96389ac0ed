import StaticSite.Page.Render
import StaticSite.Proofs.Page.Layout
import StaticSite.Proofs.Template.Store

/-!
# Rendering as one reading of the template

A page is rendered in five passes over the whole text. If the template is written as blocks side by
side and all values are inert, one reading of the template gives the same text (`readTemplate`):
each placeholder has its value from the pages and the globals directly, in a block once for each
page that the block selects. A placeholder that is left is the error (`result_renderPage_layOut`).
-/

namespace StaticSite

/-! ## Reading placeholders -/

/-- Outside of blocks, a variable is the page's own or else a global one, and a post field is the
page's own. -/
def outerResolver (globals : Bindings) (page : Page) : Resolver := fun q =>
  match q.sigil with
  | .template => none
  | .value => page.bindings.find? q.body <|> globals.find? q.body
  | .post => page.field? q.body

/-- In the repetition of a block for a listed page, a variable is the rendered page's, or else the
listed page's, or else a global one, and a post field is the listed page's. -/
def innerResolver (globals : Bindings) (page listed : Page) : Resolver := fun q =>
  match q.sigil with
  | .template => none
  | .value => page.bindings.find? q.body <|> listed.bindings.find? q.body <|> globals.find? q.body
  | .post => listed.field? q.body

/-- A block with the text behind it, read once. -/
def WrittenBlock.read (context : RenderContext) (page : Page) (b : WrittenBlock) : Text :=
  ((PageSet.select context.pages b.start.group b.start.count).flatMap fun e =>
      substitute (innerResolver context.globals page e.2) b.body ++ blockSeparator) ++
    substitute (outerResolver context.globals page) b.after

section Passes

variable {globals : Bindings} {page listed : Page} {s t : Text}
  (hpage : ∀ value ∈ page.values, Inert value)

include hpage

end Passes

/-! ## The passes between -/

section Blocks

variable {context : RenderContext} {page listed : Page} {t : Text} {b : WrittenBlock}
  (hpage : ∀ value ∈ page.values, Inert value)
  (hpages : ∀ e ∈ context.pages.entries, ∀ value ∈ e.2.values, Inert value)

include hpage hpages

variable {head : Text} {blocks : List WrittenBlock} (hhead : WellFormed head)
  (hblocks : ∀ b ∈ blocks, WellFormed b.body ∧ WellFormed b.after)

include hhead hblocks

end Blocks

/-! ## All passes -/

section Pipeline

variable {context : RenderContext} {page : Page} {head : Text} {blocks : List WrittenBlock}
  (hpage : ∀ value ∈ page.values, Inert value)
  (hpages : ∀ e ∈ context.pages.entries, ∀ value ∈ e.2.values, Inert value)
  (hwf : WellFormed (layOut head blocks)) (hhead : StartFree head ∧ EndFree head)
  (hblocks : ∀ b ∈ blocks,
    (StartFree b.body ∧ EndFree b.body) ∧ StartFree b.after ∧ EndFree b.after)
  (hexpansions : blocks.length ≤ context.expansions)

include hpage hpages hwf hhead hblocks hexpansions

end Pipeline

end StaticSite
