import StaticSite.Layout
import StaticSite.Markdown.Convert
import StaticSite.Page.Render
import StaticSite.Spec.Globals
import StaticSite.Spec.Pages

/-!
# Sites

A site is a source directory that is compiled to a destination. Its pages and its global variables
are read when they are first asked for and kept from then on, like the expanded templates; later
changes to their files are not seen. What could not be read is not kept, and is read again when it
is asked for again.
-/

namespace StaticSite

/-- What is asked of a build. -/
structure BuildSettings where
  source : Path
  destination : Path := "./out".toList
  /-- Whether the global variables take their values for production. -/
  production : Bool := false
  /-- The layout of the source, if its layout file is not to be read. -/
  layout : Option Layout := none
  /-- What turns contents into HTML, if they are no Markdown. -/
  convert : Option (Text → Text) := none
  /-- The number of list blocks that may be expanded for one page. -/
  expansions : Nat := 1000000

/-- A site, with what is known of it. -/
structure Site where
  source : Path
  destination : Path
  production : Bool
  layout : Layout
  convert : Text → Text
  expansions : Nat
  templates : TemplateStore
  /-- The pages, once they are read. -/
  pages? : Option PageSet := none
  /-- The global variables, once they are read. -/
  globals? : Option Bindings := none

/-- A site in the file system that it is built in. -/
structure Workspace where
  files : FileSystem
  site : Site

/-- The contents of a source: the files in the folders that its layout names, turned into HTML. -/
def Spec.ContentSource.ofLayout (files : FileSystem) (root : Path) (layout : Layout)
    (convert : Text → Text) : Spec.ContentSource :=
  let read (folder : Path) (stem : Text) :=
    (files.readText (Path.join (Path.join root folder) stem)).map convert
  { contentPath := Path.join (Path.join root layout.content)
    content := read layout.content
    preview := read layout.preview
    line := read layout.line }

namespace Site

/-- What turns contents into HTML: what the settings ask for, or Markdown in the theme of the
layout. -/
def chooseConverter (settings : BuildSettings) (layout : Layout) : Outcome (Text → Text) :=
  match settings.convert with
  | some convert => .ok convert
  | none => do
    let theme ← Markdown.chooseTheme layout.syntaxTheme
    pure (Markdown.toHtml theme)

/-- The site that settings describe. Its source has to be a directory. -/
def create (files : FileSystem) (settings : BuildSettings) : Outcome Site :=
  if files.isDirectory settings.source then do
    let layout ←
      match settings.layout with
      | some layout => pure layout
      | none => Layout.ofSource files settings.source
    let convert ← chooseConverter settings layout
    pure
      { source := settings.source
        destination := settings.destination
        production := settings.production
        layout
        convert
        expansions := settings.expansions
        templates :=
          { folder := layout.templatesFolder settings.source
            extension := layout.templateExtension } }
  else .fail (.directory .sourceNotDirectory settings.source none)

/-! ## Reading the spec files -/

/-- The lines of a spec file. -/
def specLines (files : FileSystem) (p : Path) : Outcome (List Spec.Line) :=
  match Spec.lines files p with
  | .ok lines => .ok lines
  | .error cause => .fail (.specNotFound p cause)

/-- The pages in the page file. -/
def readPages (files : FileSystem) (site : Site) : Outcome PageSet := do
  let p := site.layout.pagesFile site.source
  Outcome.note (.loadingPages p)
  let lines ← specLines files p
  Spec.parsePages (.ofLayout files site.source site.layout site.convert) lines

/-- The global variables in their file. -/
def readGlobals (files : FileSystem) (site : Site) : Outcome Bindings := do
  let p := site.layout.globalsFile site.source
  Outcome.note (.loadingGlobals p)
  let lines ← specLines files p
  Spec.parseGlobals site.production lines

/-! ## What is read once -/

/-- A part of the source that a site keeps once it is read. -/
structure Kept (α : Type) where
  /-- What the site has of it. -/
  known? : Site → Option α
  /-- Puts something in its place. -/
  put : Option α → Site → Site
  /-- Reads it from its file. -/
  read : FileSystem → Site → Outcome α
  /-- What was put there last counts. -/
  put_put (site : Site) (a b : Option α) : put b (put a site) = put b site

/-- The pages are kept. -/
def keptPages : Kept PageSet where
  known? site := site.pages?
  put pages? site := { site with pages? }
  read := readPages
  put_put _ _ _ := rfl

/-- The global variables are kept. -/
def keptGlobals : Kept Bindings where
  known? site := site.globals?
  put globals? site := { site with globals? }
  read := readGlobals
  put_put _ _ _ := rfl

namespace Kept

variable {α : Type}

/-- What to work with: what is known, which is taken out of the site, or what is in the file. -/
def take (k : Kept α) : Stage Workspace α := do
  let w ← Stage.get
  Stage.modify fun w => { w with site := k.put none w.site }
  match k.known? w.site with
  | some a => pure a
  | none => Stage.lift (k.read w.files w.site)

/-- Puts something that was taken out or read into the site. -/
def keep (k : Kept α) (a : α) (w : Workspace) : Workspace :=
  { w with site := k.put (some a) w.site }

/-- What is known, or what is in the file; it is known from then on. -/
def ask (k : Kept α) : Stage Workspace α := do
  let a ← k.take
  Stage.modify (k.keep a)
  pure a

end Kept

/-- The pages of the site. -/
def pages : Stage Workspace PageSet :=
  keptPages.ask

/-- The global variables of the site. -/
def globals : Stage Workspace Bindings :=
  keptGlobals.ask

/-- The pages and the global variables of the site. Pages that were found are not lost when the
global variables cannot be read. -/
def load : Stage Workspace (PageSet × Bindings) := do
  let pages ← keptPages.take
  let globals ← Stage.onFailure keptGlobals.take (keptPages.keep pages)
  Stage.modify (keptPages.keep pages)
  Stage.modify (keptGlobals.keep globals)
  pure (pages, globals)

/-! ## Templates and pages -/

/-- A step on the templates of the site. -/
def onTemplates {α : Type} (x : FileSystem → Stage TemplateStore α) : Stage Workspace α := fun w =>
  Stage.onPart (fun w => w.site.templates) (fun t w => { w with site.templates := t }) (x w.files) w

/-- The expanded text of a template of the site. -/
def template (name : Text) : Stage Workspace Text :=
  onTemplates fun files => TemplateStore.expand files name

/-- Renders a page with the pages and the global variables of the site. -/
def renderLoaded (name : Text) (pages : PageSet) (globals : Bindings) :
    Stage Workspace RenderedPage :=
  match pages.find? name with
  | none => Stage.fail (.pageNotFound name)
  | some page => do
    let w ← Stage.get
    let context : RenderContext := { pages, globals, expansions := w.site.expansions }
    onTemplates fun files => renderPage files context name page

/-- Renders a page of the site. -/
def render (name : Text) : Stage Workspace RenderedPage := do
  let (pages, globals) ← load
  renderLoaded name pages globals

end Site

end StaticSite
