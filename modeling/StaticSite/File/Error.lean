import StaticSite.Text.Basic

/-!
# Failures of the file system

The ways in which reading, writing or resolving a path can fail, with the texts that the operating
system has for them.
-/

namespace StaticSite

/-- Why an operation on files failed. -/
inductive FileError
  | notFound
  /-- The path leads through a file as if it were a directory. -/
  | notADirectory
  /-- A directory stands where a file is wanted. -/
  | isADirectory
  | alreadyExists
  /-- The file does not hold UTF-8. -/
  | invalidText
  | invalidPath
  /-- The path ends in a dot part, so it names no entry that could be removed. -/
  | invalidArgument
  deriving DecidableEq, Repr, Inhabited

/-- The operating system's words for a failure. -/
def FileError.message : FileError → String
  | notFound => "No such file or directory (os error 2)"
  | notADirectory => "Not a directory (os error 20)"
  | isADirectory => "Is a directory (os error 21)"
  | alreadyExists => "File exists (os error 17)"
  | invalidText => "stream did not contain valid UTF-8"
  | invalidPath => "file name contained an unexpected NUL byte"
  | invalidArgument => "Invalid argument (os error 22)"

end StaticSite
