import StaticSite.Build.Error
import StaticSite.File.System
import StaticSite.Text.WhiteSpace

/-!
# Lines of a spec

The page file and the file of the global variables are read line by line. A line ends at a line
feed, and white space around it does not count. Each line is read as text on its own, so the lines
before one that is not UTF-8 keep their meaning.

Most lines are entries, a key and a value with `: ` between them.
-/

namespace StaticSite.Spec

/-- One trimmed line; `none` for a line that cannot be read as text. -/
abbrev Line := Option Text

/-- The pieces of some bytes that line feeds end, and the piece behind the last one unless it is
empty. The first argument holds the bytes of the piece being read, the last one first. -/
def splitLines (piece : List UInt8) : List UInt8 → List (List UInt8)
  | [] => if piece.isEmpty then [] else [piece.reverse]
  | b :: bytes =>
    if b = 10 then piece.reverse :: splitLines [] bytes else splitLines (b :: piece) bytes

/-- The text of a line without the white space around it. -/
def Line.ofBytes (bytes : List UInt8) : Line :=
  (Text.decode? ⟨bytes.toArray⟩).map Text.trim

/-- The lines of a file. -/
def linesOfBytes (content : ByteArray) : List Line :=
  (splitLines [] content.data.toList).map Line.ofBytes

/-- The lines that can be read from a path. A directory can be opened, but its first line cannot be
read. -/
def lines (files : FileSystem) (p : Path) : Except FileError (List Line) :=
  match files.find p with
  | .error e => .error e
  | .ok (_, .directory) => .ok [none]
  | .ok (_, .file content) => .ok (linesOfBytes content)

/-- What stands between the key and the value of an entry. -/
def entrySeparator : Text :=
  [':', ' ']

/-- The key and the value of an entry. The separator has to occur exactly once. -/
def entry (number : Nat) (line : Text) : Except BuildError (Text × Text) :=
  match Text.splitOnce? entrySeparator line with
  | none => .error (.malformedLine number (some line))
  | some (key, value) =>
    if Text.contains entrySeparator value then .error (.malformedLine number (some line))
    else .ok (key, value)

end StaticSite.Spec
