import StaticSite.Site.Basic

/-!
# Compiling a site

A compilation empties the destination, copies the static files to it, and then renders and writes
the pages in the order of their names. A destination that holds the source is not emptied. The
first failure ends the compilation; what was written until then stays.
-/

namespace StaticSite

/-- What a finished compilation has written. -/
structure BuildSummary where
  pages : Nat
  staticFiles : Nat
  deriving DecidableEq, Repr, Inhabited

/-- A change of the file system whose failure is a problem with a directory. -/
def change (problem : DirectoryProblem) (p : Path)
    (act : FileSystem → FileSystem × Except FileError Unit) : Stage FileSystem Unit := fun files =>
  match act files with
  | (files, .ok ()) => (.ok (), files)
  | (files, .error cause) => (.fail (.directory problem p (some cause)), files)

/-- The changed file system, or the old one beside a failure. -/
def FileSystem.orUnchanged (files : FileSystem) :
    Except FileError FileSystem → FileSystem × Except FileError Unit
  | .ok changed => (changed, .ok ())
  | .error cause => (files, .error cause)

/-! ## The destination -/

/-- Deletes an old destination, unless the source is in it. -/
def deleteDestination (source destination : Path) : Stage FileSystem Unit := fun files =>
  match files.canonical source, files.canonical destination with
  | .error cause, _ => (.fail (.directory .sourceUnresolved source (some cause)), files)
  | _, .error cause => (.fail (.directory .destinationUnresolved destination (some cause)), files)
  | .ok sourcePlace, .ok place =>
    if place.isPrefixOf sourcePlace then
      (.fail (.directory .destinationHoldsSource place.path none), files)
    else
      (do
        Stage.note (.deletingDestination destination)
        change .destinationNotDeleted destination fun files => files.removeDirectory destination :
          Stage FileSystem Unit) files

/-- Makes the destination an empty directory. -/
def prepareDestination (source destination : Path) : Stage FileSystem Unit := do
  let files ← Stage.get
  if files.pathExists destination then deleteDestination source destination
  change .destinationNotMade destination fun files => files.makeDirectories destination

/-! ## Static files -/

/-- Fails if a path is too long for the operating system. The operations on files take paths of any
length. -/
def checkLength (problem : DirectoryProblem) (p checked : Path) : Stage FileSystem Unit :=
  if checked.isTooLong then Stage.fail (.directory problem p none) else pure ()

/-- Copies an entry of the folder of static files, a directory without what it holds; answers with
the number of copied files. -/
def copyEntry (folder destination : Path) (place : Location) (entry : Location × FileEntry) :
    Stage FileSystem Nat := do
  let tail := Text.join [Path.separator] (entry.1.drop place.length)
  let source := Path.join folder tail
  let target := Path.join destination tail
  match entry.2 with
  | .directory =>
    checkLength .staticFilesNotRead folder source
    checkLength .staticDirectoryNotMade target target
    change .staticDirectoryNotMade target fun files => files.makeDirectories target
    pure 0
  | .file _ =>
    Stage.note (.copying source target)
    checkLength .staticFileNotCopied source source
    checkLength .staticFileNotCopied source target
    change .staticFileNotCopied source fun files => files.orUnchanged (files.copyFile source target)
    pure 1

/-- Copies entries one after the other; answers with the number of copied files. -/
def copyEach (copy : Location × FileEntry → Stage FileSystem Nat) :
    List (Location × FileEntry) → Stage FileSystem Nat
  | [] => pure 0
  | entry :: entries => do
    let first ← copy entry
    let rest ← copyEach copy entries
    pure (first + rest)

/-- Copies an entry of the folder of static files with all that is below it, down to `levels` levels;
answers with the number of copied files. What a directory holds is looked up when its copy is made,
so it includes what was copied there until then. -/
def copyWithin (folder destination : Path) (place : Location) :
    (levels : Nat) → Location × FileEntry → Stage FileSystem Nat
  | 0, entry => copyEntry folder destination place entry
  | levels + 1, entry => do
    let first ← copyEntry folder destination place entry
    match entry.2 with
    | .file _ => pure first
    | .directory =>
      let files ← Stage.get
      let rest ← copyEach (copyWithin folder destination place levels) (files.entriesIn entry.1)
      pure (first + rest)

/-- Copies the static files to the destination, if there are any; answers with their number. A
destination in the folder is copied into itself until a path is too long. There are levels enough
for that, since each one takes a byte of the path at least. -/
def copyStaticFiles (folder destination : Path) : Stage FileSystem Nat := do
  let files ← Stage.get
  match files.find folder with
  | .ok (place, .directory) =>
    copyWithin folder destination place (Path.maxBytes + 2) (place, .directory)
  | _ =>
    Stage.note (.noStaticFiles folder)
    pure 0

/-! ## Pages -/

/-- Writes a page below the destination. -/
def writePage (destination : Path) (page : RenderedPage) : Stage FileSystem Unit := do
  let p := Path.join destination page.path
  match Path.parent? p with
  | some folder => change .pageFolderNotMade folder fun files => files.makeDirectories folder
  | none => pure ()
  change .pageNotWritten p fun files =>
    files.orUnchanged (files.writeFile p (Text.encode page.content))

namespace Site

/-- A step on the files of a workspace. -/
def onFiles {α : Type} (x : Stage FileSystem α) : Stage Workspace α :=
  Stage.onPart Workspace.files (fun files w => { w with files }) x

/-- Renders and writes the pages with the given names. -/
def writePages (destination : Path) : List Text → Stage Workspace Unit
  | [] => pure ()
  | name :: names => do
    Stage.note (.loadingPage name)
    let page ← render name
    onFiles (writePage destination page)
    writePages destination names

/-- Compiles the site. -/
def compile : Stage Workspace BuildSummary := do
  Stage.note .started
  let w ← Stage.get
  let destination := w.site.destination
  onFiles (prepareDestination w.site.source destination)
  let staticFiles ←
    onFiles (copyStaticFiles (w.site.layout.staticFolder w.site.source) destination)
  let names := (← pages).keys
  writePages destination names
  Stage.note .finished
  pure ⟨names.length, staticFiles⟩

end Site

/-- Compiles the site that settings describe. -/
def compileSite (settings : BuildSettings) : Stage FileSystem BuildSummary := fun files =>
  match Site.create files settings with
  | ⟨log, .error e⟩ => (⟨log, .error e⟩, files)
  | ⟨log, .ok site⟩ =>
    let (outcome, w) := Site.compile ⟨files, site⟩
    (⟨log ++ outcome.log, outcome.result⟩, w.files)

end StaticSite
