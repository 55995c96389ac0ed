import StaticSite.Build.Outcome
import StaticSite.File.System
import StaticSite.Page.Basic
import StaticSite.Placeholder.Substitute

/-!
# The template store

Templates are files that may include each other by `$` placeholders with an identifier. The store
expands a template with all that it includes and remembers the expanded text: a template is expanded
at most once, and later changes to its file are not seen.

A template that is asked for while it is being expanded closes a circle of includes. The error names
the chain of templates that are open, and no member of the circle is remembered.
-/

namespace StaticSite

/-- The templates of a site: where their files are, and the expanded ones. -/
structure TemplateStore where
  /-- The folder of the template files. -/
  folder : Path
  /-- What follows the dot in the name of a template file. -/
  extension : Text
  /-- The expanded texts of the templates that were asked for. -/
  expanded : Bindings := ∅
  deriving DecidableEq, Inhabited

/-- The members of a list without repetitions, in the order of their first appearances. -/
def distinct : List Text → List Text
  | [] => []
  | t :: ts => t :: (distinct ts).filter fun u => u != t

/-- The templates that a text includes, in the order of their first appearances. -/
def includes (t : Text) : List Text :=
  distinct ((scan t).filterMap fun o =>
    if o.placeholder.sigil = .template then o.placeholder.identifier? else none)

/-- Reads `$` placeholders as templates. -/
def templateResolver (texts : Bindings) : Resolver := fun p =>
  match p.sigil with
  | .template => p.identifier?.bind texts.find?
  | _ => none

/-- The number of bytes of all files. No file can include as many templates. -/
def FileSystem.totalSize (files : FileSystem) : Nat :=
  files.entries.values.foldr
    (fun e n =>
      match e with
      | .file content => content.size + n
      | .directory => n)
    0

namespace TemplateStore

/-- The path of the file of a template. -/
def path (store : TemplateStore) (name : Text) : Path :=
  Path.join store.folder (name ++ '.' :: store.extension)

/-- Whether the expanded text of a template is remembered. -/
def isExpanded (store : TemplateStore) (name : Text) : Bool :=
  store.expanded.contains name

/-- Remembers the expanded text of a template. -/
def remember (name text : Text) (store : TemplateStore) : TemplateStore :=
  { store with expanded := store.expanded.insert name text }

/-- The texts of some templates, each asked for in turn. -/
def expandAll (expand : Text → Stage TemplateStore Text) :
    List Text → Stage TemplateStore Bindings
  | [] => pure ∅
  | name :: names => do
    let text ← expand name
    let texts ← expandAll expand names
    pure (texts.insert name text)

/-- The expanded text of a template that was asked for while the templates of `chain` were open: the
remembered one, or what `make` makes of the template's file. -/
def fetch (files : FileSystem) (chain : List Text) (name : Text)
    (make : Text → Stage TemplateStore Text) : Stage TemplateStore Text := do
  let store ← Stage.get
  match store.expanded.find? name with
  | some text =>
    Stage.note (.fetchingTemplate name)
    pure text
  | none =>
    if name ∈ chain then Stage.fail (.cyclicInclude (chain ++ [name]))
    else
      Stage.note (.loadingTemplate name)
      match files.readText (store.path name) with
      | .error cause => Stage.fail (.templateNotFound name (store.path name) cause)
      | .ok raw => make raw

/-- The expanded text of a template that was asked for while the templates of `chain` were open.
At most `depth` further templates can be open at once. -/
def expandWithin (files : FileSystem) :
    (depth : Nat) → (chain : List Text) → (name : Text) → Stage TemplateStore Text
  | 0, chain, name =>
    fetch files chain name fun _ => Stage.fail (.cyclicInclude (chain ++ [name]))
  | depth + 1, chain, name =>
    fetch files chain name fun raw => do
      let texts ← expandAll (expandWithin files depth (chain ++ [name])) (includes raw)
      let text := substitute (templateResolver texts) raw
      Stage.modify (remember name text)
      pure text

/-- The expanded text of a template. The open templates but the first one are included by some
file, so there are fewer of them than bytes in all files. -/
def expand (files : FileSystem) (name : Text) : Stage TemplateStore Text :=
  expandWithin files (files.totalSize + 1) [] name

end TemplateStore

end StaticSite
