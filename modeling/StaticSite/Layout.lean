import StaticSite.Build.Outcome
import StaticSite.Config.Toml.Document
import StaticSite.File.System

/-!
# The layout of a source

Where the parts of a site are in its source directory. The layout is read from a table `layout` in
the file `stencil.toml` of the source; what that table does not say has a default. The layout may
also be an array, whose items are the fields in their order.
-/

namespace StaticSite

/-- Where the parts of a site are, relative to its source directory. -/
structure Layout where
  pages : Path := "pages.spec".toList
  globals : Path := "globals.spec".toList
  templates : Path := "templates".toList
  /-- What follows the dot in the names of template files. -/
  templateExtension : Text := "html".toList
  content : Path := "content".toList
  preview : Path := "preview".toList
  line : Path := "line".toList
  static : Path := "static".toList
  /-- The colours for code in contents. -/
  syntaxTheme : Text := "base16-ocean.dark".toList
  deriving DecidableEq, Repr, Inhabited

namespace Layout

/-- The name of the layout file. -/
def fileName : Path :=
  "stencil.toml".toList

/-- The path of the page file. -/
def pagesFile (l : Layout) (root : Path) : Path :=
  Path.join root l.pages

/-- The path of the file of the global variables. -/
def globalsFile (l : Layout) (root : Path) : Path :=
  Path.join root l.globals

/-- The path of the folder of the templates. -/
def templatesFolder (l : Layout) (root : Path) : Path :=
  Path.join root l.templates

/-- The path of the folder of the static files. -/
def staticFolder (l : Layout) (root : Path) : Path :=
  Path.join root l.static

/-- The layout with one more field set; `none` stands for a field that the file does not have. -/
def setText (l : Layout) (set : Layout → Text → Layout) : Option ConfigValue → Option Layout
  | none => some l
  | some (.text t) => some (set l t)
  | some _ => none

/-- The layout whose fields have the values that `value?` finds for their names and positions. -/
def ofFields? (value? : (name : Text) → (position : Nat) → Option ConfigValue) : Option Layout := do
  let l : Layout := {}
  let l ← l.setText (fun l t => { l with pages := t }) (value? "pages".toList 0)
  let l ← l.setText (fun l t => { l with globals := t }) (value? "globals".toList 1)
  let l ← l.setText (fun l t => { l with templates := t }) (value? "templates".toList 2)
  let l ← l.setText (fun l t => { l with templateExtension := t })
    (value? "template_extension".toList 3)
  let l ← l.setText (fun l t => { l with content := t }) (value? "content".toList 4)
  let l ← l.setText (fun l t => { l with preview := t }) (value? "preview".toList 5)
  let l ← l.setText (fun l t => { l with line := t }) (value? "line".toList 6)
  let l ← l.setText (fun l t => { l with static := t }) (value? "static".toList 7)
  l.setText (fun l t => { l with syntaxTheme := t }) (value? "syntax_theme".toList 8)

/-- Whether a whole number may stand in a layout file: it has 128 bits with or without a sign. -/
def isSupportedInteger (n : Int) : Bool :=
  -170141183460469231731687303715884105728 ≤ n && n ≤ 340282366920938463463374607431768211455

/-- The layout that a configuration describes. -/
def ofConfig? (config : ConfigValue) : Option Layout :=
  if config.allNumbers isSupportedInteger fun x => !x.overflows then
    match config.member? "layout".toList with
    | none => some {}
    | some (.table members) => ofFields? fun name _ => (ConfigValue.table members).member? name
    | some (.list items) => ofFields? fun _ position => items[position]?
    | some _ => none
  else none

/-- The layout in a layout file. -/
def read (files : FileSystem) (p : Path) : Except BuildError Layout :=
  match files.readText p with
  | .error cause => .error (.layoutUnreadable cause)
  | .ok t =>
    match (Toml.parse? t).bind ofConfig? with
    | none => .error .layoutMalformed
    | some l => .ok l

/-- The layout of a source directory; the default one if it has no layout file. -/
def ofSource (files : FileSystem) (root : Path) : Outcome Layout :=
  let p := Path.join root fileName
  if files.isFile p then ⟨[.readingLayout p], read files p⟩ else .ok {}

end Layout

end StaticSite
