import StaticSite.Command.Run

/-!
# The program

The outer layer of the command. It reads the files that a run can need (those of the source and of
the destination, and the configuration file), runs the command on them, and writes back what the run
has changed.
-/

namespace StaticSite.Command

/-- The place that a path names if every part of it is a directory. -/
def namedPlace (workingDirectory : Location) (p : Path) : Location :=
  (Path.parts p).foldl
    (fun place part =>
      if part = ['.'] then place
      else if part = ['.', '.'] then place.dropLast
      else place ++ [part])
    (if Path.isAbsolute p then [] else workingDirectory)

/-- The paths of the files and directories that a run can need. -/
def neededPaths (arguments : List Text) : List Path :=
  match Request.ofArguments arguments with
  | .ok (.build a) =>
    let formats := [ConfigFormat.toml, .json]
    [a.source, a.destination, a.configFile] ++
      formats.map fun format => a.configFile ++ '.' :: format.suffix
  | _ => []

/-! ## Reading -/

/-- The name of a place for the operating system. -/
def nameOf (place : Location) : String :=
  String.ofList place.path

/-- Adds what stands at a place and below it. Nothing is added for what cannot be read. -/
partial def readFrom (files : FileSystem) (place : Location) : IO FileSystem := do
  let path := (← IO.currentDir) / nameOf place
  if ← path.isDir then
    let mut files := if place = [] then files else files.put place .directory
    for e in ← path.readDir do
      files ← readFrom files (place ++ [e.fileName.toList])
    return files
  else
    try
      return files.put place (.file (← IO.FS.readBinFile path))
    catch _ =>
      return files

/-- Adds the directories that lead to a place, and what stands at the place and below it. -/
def readPlace (files : FileSystem) (place : Location) : IO FileSystem := do
  let mut files := files
  for n in [1:place.length] do
    if ← ((← IO.currentDir) / nameOf (place.take n)).isDir then
      files := files.put (place.take n) .directory
  readFrom files place

/-- The files that a run with some arguments can need. -/
def readFiles (arguments : List Text) : IO FileSystem := do
  let workingDirectory := namedPlace [] (← IO.currentDir).toString.toList
  let mut files := { FileSystem.empty with workingDirectory }
  for n in [0:workingDirectory.length] do
    files := files.put (workingDirectory.take (n + 1)) .directory
  for p in neededPaths arguments do
    files ← readPlace files (namedPlace workingDirectory p)
  return files

/-- The environment of the program. -/
def readEnvironment : IO Environment := do
  try
    let content ← IO.FS.readBinFile "/proc/self/environ"
    let entries := Text.splitOnChar '\x00' (Text.decodeLossy content)
    return entries.filterMap (Text.splitOnce? ['='])
  catch _ =>
    return []

/-! ## Writing -/

/-- Whether two entries are two files or two directories. -/
def sameKind : FileEntry → FileEntry → Bool
  | .directory, .directory => true
  | .file _, .file _ => true
  | _, _ => false

/-- Writes back what has changed: first what is gone is removed, what is deeper before what holds
it; then what is new is made. -/
def writeChanges (before after : FileSystem) : IO Unit := do
  for (place, old) in before.entries.entries.reverse do
    if !((after.entries.find? place).any (sameKind old)) then
      match old with
      | .directory => IO.FS.removeDir (nameOf place)
      | .file _ => IO.FS.removeFile (nameOf place)
  for (place, new) in after.entries.entries do
    if before.entries.find? place ≠ some new then
      match new with
      | .directory => IO.FS.createDirAll (nameOf place)
      | .file content => IO.FS.writeBinFile (nameOf place) content

end StaticSite.Command

open StaticSite StaticSite.Command in
/-- Runs the command with the arguments of the program. -/
def main (args : List String) : IO UInt32 := do
  let arguments := args.map String.toList
  let files ← readFiles arguments
  let (report, changed) := run arguments (← readEnvironment) files
  writeChanges files changed
  IO.print (String.ofList report.output)
  IO.eprint (String.ofList report.errorOutput)
  return report.exitCode
