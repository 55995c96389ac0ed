import StaticSite.File.Error
import StaticSite.File.Path
import StaticSite.Text.Order
import StaticSite.Text.Utf8

/-!
# The file system

A file system is a value: which places hold a file or a directory, and the place that relative paths
start from. There are no links, so every place has exactly one name, its `Location`.

A path leads to a place part by part (`FileSystem.follow`): a dot stays, two dots go to the parent,
a name goes to the child of that name, and each part but the last one has to lead to a directory.
All operations go through it; those that change something answer with the changed file system.
-/

namespace StaticSite

/-- The one name of a place: the names on the way to it from the root. -/
abbrev Location := List Text

/-- What a place can hold. -/
inductive FileEntry
  | file (content : ByteArray)
  | directory
  deriving Inhabited

/-- Two files are equal when they have the same bytes. -/
instance : DecidableEq FileEntry
  | .file a, .file b =>
    if h : a.data = b.data then isTrue (congrArg FileEntry.file (ByteArray.ext h))
    else isFalse fun he => h (congrArg ByteArray.data (FileEntry.file.inj he))
  | .directory, .directory => isTrue rfl
  | .file _, .directory => isFalse nofun
  | .directory, .file _ => isFalse nofun

/-- The absolute path of a place. -/
def Location.path (l : Location) : Path :=
  Path.separator :: Text.join [Path.separator] l

/-- Files and directories, and the place that relative paths start from. -/
structure FileSystem where
  /-- What the places other than the root hold. -/
  entries : Dictionary Location FileEntry
  /-- The place that relative paths start from. -/
  workingDirectory : Location
  deriving DecidableEq

/-- Where a path leads. -/
inductive Destination
  /-- To a place that holds something. -/
  | found (place : Location) (entry : FileEntry)
  /-- To a free name in a directory. -/
  | free (folder : Location) (name : Text)
  deriving DecidableEq

namespace FileSystem

/-- The file system whose only directory is the root. -/
def empty : FileSystem where
  entries := ∅
  workingDirectory := []

instance : Inhabited FileSystem := ⟨empty⟩

/-- What a place holds. The root always holds a directory. -/
def entryAt? (files : FileSystem) (l : Location) : Option FileEntry :=
  if l = [] then some .directory else files.entries.find? l

/-- The file system with something put at a place. -/
def put (files : FileSystem) (l : Location) (e : FileEntry) : FileSystem :=
  { files with entries := files.entries.insert l e }

/-- The entries at a place and below it, in the order of their locations. -/
def entriesFrom (files : FileSystem) (l : Location) : List (Location × FileEntry) :=
  files.entries.entries.filter fun e => l.isPrefixOf e.1

/-- The entries that stand in a directory, in the order of their names. -/
def entriesIn (files : FileSystem) (l : Location) : List (Location × FileEntry) :=
  files.entries.entries.filter fun e => !e.1.isEmpty && e.1.dropLast == l

/-! ## Resolving paths -/

/-- Follows the parts of a path from a place. -/
def walk (files : FileSystem) (place : Location) : List Text → Except FileError Destination
  | [] =>
    match files.entryAt? place with
    | some e => .ok (.found place e)
    | none => .error .notFound
  | part :: rest =>
    match files.entryAt? place with
    | none => .error .notFound
    | some (.file _) => .error .notADirectory
    | some .directory =>
      if part = ['.'] then walk files place rest
      else if part = ['.', '.'] then walk files place.dropLast rest
      else
        match files.entryAt? (place ++ [part]) with
        | some _ => walk files (place ++ [part]) rest
        | none => if rest.isEmpty then .ok (.free place part) else .error .notFound

/-- Where a path leads, whether it ends in a slash or not. The empty path leads nowhere. -/
def follow (files : FileSystem) (p : Path) : Except FileError Destination :=
  if '\x00' ∈ p then .error .invalidPath
  else if p.isEmpty then .error .notFound
  else files.walk (if Path.isAbsolute p then [] else files.workingDirectory) (Path.parts p)

/-- Where a path leads. A path that ends in a slash does not lead to a file. -/
def resolve (files : FileSystem) (p : Path) : Except FileError Destination :=
  match files.follow p with
  | .ok (.found place (.file content)) =>
    if Path.endsInSlash p then .error .notADirectory else .ok (.found place (.file content))
  | answer => answer

/-- The entry that a path leads to, with its place. -/
def find (files : FileSystem) (p : Path) : Except FileError (Location × FileEntry) :=
  match files.resolve p with
  | .error e => .error e
  | .ok (.free _ _) => .error .notFound
  | .ok (.found place entry) => .ok (place, entry)

/-- Whether a path leads to something. -/
def pathExists (files : FileSystem) (p : Path) : Bool :=
  match files.find p with
  | .ok _ => true
  | .error _ => false

/-- Whether a path leads to a directory. -/
def isDirectory (files : FileSystem) (p : Path) : Bool :=
  match files.find p with
  | .ok (_, .directory) => true
  | _ => false

/-- Whether a path leads to a file. -/
def isFile (files : FileSystem) (p : Path) : Bool :=
  match files.find p with
  | .ok (_, .file _) => true
  | _ => false

/-- The place that a path leads to. -/
def canonical (files : FileSystem) (p : Path) : Except FileError Location :=
  (files.find p).map Prod.fst

/-! ## Reading -/

/-- The bytes of a file. -/
def readBytes (files : FileSystem) (p : Path) : Except FileError ByteArray :=
  match files.find p with
  | .error e => .error e
  | .ok (_, .directory) => .error .isADirectory
  | .ok (_, .file content) => .ok content

/-- The text of a file. -/
def readText (files : FileSystem) (p : Path) : Except FileError Text :=
  match files.readBytes p with
  | .error e => .error e
  | .ok content =>
    match Text.decode? content with
    | none => .error .invalidText
    | some t => .ok t

/-! ## Writing -/

/-- Makes a directory at a free name. -/
def makeDirectory (files : FileSystem) (p : Path) : Except FileError FileSystem :=
  match files.follow p with
  | .error e => .error e
  | .ok (.found _ _) => .error .alreadyExists
  | .ok (.free folder name) => .ok (files.put (folder ++ [name]) .directory)

/-- Makes a directory and, where they are missing, the folders that lead to it, given nearest first.
What was made stays when a later step fails. -/
def makeDirectoriesFrom (files : FileSystem) (p : Path) :
    List Path → FileSystem × Except FileError Unit
  | [] => attempt files p
  | parent :: parents =>
    if p.isEmpty then (files, .ok ())
    else
      match files.makeDirectory p with
      | .error .notFound =>
        match makeDirectoriesFrom files parent parents with
        | (files, .ok ()) => attempt files p
        | failed => failed
      | _ => attempt files p
where
  /-- Makes one directory, and accepts one that is there already. -/
  attempt (files : FileSystem) (p : Path) : FileSystem × Except FileError Unit :=
    if p.isEmpty then (files, .ok ())
    else
      match files.makeDirectory p with
      | .ok files => (files, .ok ())
      | .error e => if files.isDirectory p then (files, .ok ()) else (files, .error e)

/-- Makes a directory and the missing folders that lead to it. A directory that is there already
will do. -/
def makeDirectories (files : FileSystem) (p : Path) : FileSystem × Except FileError Unit :=
  makeDirectoriesFrom files p (Path.parents p)

/-- Gives a file its bytes; the file is made if its name is free. A path that ends in a slash names
no file. -/
def writeFile (files : FileSystem) (p : Path) (content : ByteArray) :
    Except FileError FileSystem :=
  match files.follow p with
  | .error e => .error e
  | .ok (.found _ .directory) => .error .isADirectory
  | .ok (.found place (.file _)) =>
    if Path.endsInSlash p then .error .isADirectory else .ok (files.put place (.file content))
  | .ok (.free folder name) =>
    if Path.endsInSlash p then .error .isADirectory
    else .ok (files.put (folder ++ [name]) (.file content))

/-- Copies the bytes of a file to another path. What stands there is emptied before the bytes are
read, so a file that is copied to its own place ends up empty. -/
def copyFile (files : FileSystem) (source target : Path) : Except FileError FileSystem :=
  match files.find source with
  | .error e => .error e
  | .ok (_, .directory) => .error .isADirectory
  | .ok (place, .file content) =>
    match files.canonical target with
    | .error _ => files.writeFile target content
    | .ok old => files.writeFile target (if old = place then .empty else content)

/-! ## Removing -/

/-- The file system without what stands below a place. -/
def clearBelow (files : FileSystem) (l : Location) : FileSystem :=
  { files with entries := files.entries.filterKeys fun k => !(l.isPrefixOf k && k != l) }

/-- The file system without a place and what stands below it. -/
def removeFrom (files : FileSystem) (l : Location) : FileSystem :=
  { files with entries := files.entries.filterKeys fun k => !l.isPrefixOf k }

/-- Removes a directory with all that it holds: first what stands below it, then the directory
itself by its path. A path that ends in a lone dot names no entry to remove; one whose last parts
led through what was just removed leads nowhere, and then the emptied directory stays. -/
def removeDirectory (files : FileSystem) (p : Path) : FileSystem × Except FileError Unit :=
  match files.find p with
  | .error e => (files, .error e)
  | .ok (_, .file _) => (files, .error .notADirectory)
  | .ok (place, .directory) =>
    let cleared := files.clearBelow place
    if (Path.parts p).getLast? = some ['.'] then (cleared, .error .invalidArgument)
    else
      match cleared.find p with
      | .error .notFound => (cleared, .ok ())
      | .error e => (cleared, .error e)
      | .ok _ => (cleared.removeFrom place, .ok ())

end FileSystem

end StaticSite
