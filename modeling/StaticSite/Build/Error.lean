import StaticSite.File.Error
import StaticSite.File.Path

/-!
# Build errors

The ways in which building a site can fail. An error is a cause with the names that it concerns;
the words of a message are put together in `BuildError.message` alone.
-/

namespace StaticSite

/-- What went wrong with a directory or an output file. -/
inductive DirectoryProblem
  | sourceNotDirectory
  | sourceUnresolved
  | destinationUnresolved
  | destinationHoldsSource
  | destinationNotDeleted
  | destinationNotMade
  | staticFilesNotRead
  | staticDirectoryNotMade
  | staticFileNotCopied
  | pageFolderNotMade
  | pageNotWritten
  deriving DecidableEq, Repr, Inhabited

/-- The words for a problem with a directory. -/
def DirectoryProblem.message : DirectoryProblem → String
  | sourceNotDirectory => "source is not a directory"
  | sourceUnresolved => "failed to resolve source"
  | destinationUnresolved => "failed to resolve destination"
  | destinationHoldsSource => "refusing to delete a destination that contains the source"
  | destinationNotDeleted => "failed to delete destination"
  | destinationNotMade => "failed to create destination"
  | staticFilesNotRead => "failed to read static files"
  | staticDirectoryNotMade => "failed to create directory"
  | staticFileNotCopied => "failed to copy static file"
  | pageFolderNotMade => "failed to create folder for page"
  | pageNotWritten => "failed to write page"

/-- Why a build failed. -/
inductive BuildError
  | templateNotFound (name : Text) (path : Path) (cause : FileError)
  /-- Templates include each other in a circle; the chain ends in the name that closes it. -/
  | cyclicInclude (chain : List Text)
  | specNotFound (path : Path) (cause : FileError)
  /-- A line has the wrong form; `none` stands for a line that cannot be read as text. -/
  | malformedLine (number : Nat) (line : Option Text)
  | unknownField (page field : Text)
  | contentNotFound (page : Text) (path : Path) (cause : FileError)
  | pageNotFound (name : Text)
  | missingListEnd (group : Text)
  /-- A list end comes before the first list start is over. -/
  | listEndBeforeStart (group : Text)
  /-- A list block brings itself back. -/
  | cyclicList (group : Text)
  /-- List blocks are left after as many expansions as were allowed. -/
  | tooManyExpansions
  /-- The post fields of a page bring themselves back. -/
  | postFieldCycle (page : Text)
  | unresolvedVariable (page placeholder : Text)
  | directory (problem : DirectoryProblem) (path : Path) (cause : Option FileError)
  | layoutUnreadable (cause : FileError)
  | layoutMalformed
  deriving DecidableEq, Repr, Inhabited

namespace BuildError

/-- The file system's failure beneath a build error. -/
def cause? : BuildError → Option FileError
  | templateNotFound _ _ cause => some cause
  | specNotFound _ cause => some cause
  | contentNotFound _ _ cause => some cause
  | directory _ _ cause => cause
  | layoutUnreadable cause => some cause
  | _ => none

/-- The message of a build error. -/
def message : BuildError → Text
  | templateNotFound name path _ =>
    "failed to open template \x60".toList ++ name ++ "\x60 at ".toList ++ path
  | cyclicInclude chain =>
    "template include cycle: ".toList ++ Text.join " -> ".toList chain
  | specNotFound path _ => "could not open ".toList ++ path
  | malformedLine number line =>
    "malformed line ".toList ++ Text.ofNat number ++ ": \x60".toList ++
      line.getD "<unreadable>".toList ++ "\x60".toList
  | unknownField page field =>
    "unexpected field \x60".toList ++ field ++ "\x60 in page \x60".toList ++ page ++ "\x60".toList
  | contentNotFound page path _ =>
    "failed to read content for page \x60".toList ++ page ++ "\x60 at ".toList ++ path
  | pageNotFound name => "no page named \x60".toList ++ name ++ "\x60".toList
  | missingListEnd group =>
    "found \x60#\x7blist:".toList ++ group ++ ":...\x7d\x60 but no \x60#\x7blist:end\x7d\x60".toList
  | listEndBeforeStart group =>
    "\x60#\x7blist:end\x7d\x60 appears before the end of \x60#\x7blist:".toList ++ group ++
      ":...\x7d\x60".toList
  | cyclicList group =>
    "list block \x60".toList ++ group ++ "\x60 keeps expanding into new list blocks".toList
  | tooManyExpansions => "list blocks are left after the allowed number of expansions".toList
  | postFieldCycle page =>
    "post fields of page \x60".toList ++ page ++ "\x60 never stop expanding".toList
  | unresolvedVariable page placeholder =>
    "unfilled variable in page \x60".toList ++ page ++ "\x60: ".toList ++ placeholder
  | directory problem path _ => problem.message.toList ++ ": ".toList ++ path
  | layoutUnreadable _ => "failed to read layout file".toList
  | layoutMalformed => "failed to parse layout file".toList

end BuildError

end StaticSite
