import StaticSite.Text.Basic

/-!
# Paths

A path is the text by which a user names a file. It is kept as it was written: joining two paths
puts at most one slash between them and normalises nothing, so a message can show the path that the
user knows. What a path leads to is decided by the file system (`StaticSite.File.System`).
-/

namespace StaticSite

/-- A path as it was written. -/
abbrev Path := Text

namespace Path

/-- The character between the parts of a path. -/
def separator : Char := '/'

/-- Whether a path starts at the root. -/
def isAbsolute (p : Path) : Bool :=
  p.head? = some separator

/-- Whether a path ends in a slash, which lets it name a directory only. -/
def endsInSlash (p : Path) : Bool :=
  p.getLast? = some separator

/-- The path `p` read from `base`. An absolute path needs no base. -/
def join (base p : Path) : Path :=
  if isAbsolute p || base.isEmpty then p
  else if endsInSlash base then base ++ p
  else base ++ separator :: p

/-- The parts of a path between its slashes, without the empty ones. -/
def parts (p : Path) : List Text :=
  (Text.splitOnChar separator p).filter fun part => !part.isEmpty

/-- A part that leads nowhere: the empty one and the single dot. -/
def isIdle (part : Text) : Bool :=
  part.isEmpty || part == ['.']

/-- What a path begins with before its first part: the slash of an absolute path, the dot of one
that begins with a lone dot, or nothing. -/
def anchor (p : Path) : Text :=
  if isAbsolute p then [separator]
  else if (Text.splitOnChar separator p).head? = some ['.'] then ['.']
  else []

/-- The paths above an anchor. -/
def aboveAnchor (anchor : Text) : List Path :=
  if anchor = ['.'] then [anchor, []] else [anchor]

/-- The paths that end in one of the given parts, which come last first, and those above the
anchor. -/
def endingIn (anchor : Text) : List Text → List Path
  | [] => aboveAnchor anchor
  | part :: before =>
    if isIdle part then endingIn anchor before
    else (anchor ++ Text.join [separator] (part :: before).reverse) :: endingIn anchor before

/-- The paths of the folders that lead to `p`, the nearest first. -/
def parents (p : Path) : List Path :=
  let a := anchor p
  (endingIn a (Text.splitOnChar separator (p.drop a.length)).reverse).tail

/-- The path of the folder that holds `p`. -/
def parent? (p : Path) : Option Path :=
  (parents p).head?

/-- The most bytes that the operating system takes as a path. -/
def maxBytes : Nat := 4095

/-- Whether a path has more bytes than the operating system takes. -/
def isTooLong (p : Path) : Bool :=
  maxBytes < Text.utf8Size p

end Path

end StaticSite
