import StaticSite.Build.Outcome
import StaticSite.Page.Basic
import StaticSite.Spec.Line

/-!
# The page file

The page file has a section for each page. A section begins with a header, the name of the page in
square brackets, and holds entries for the fields of the page. After a line `variables:` the entries
of the section define variables of the page. The entry `content` names a file of content; the files
of that name in the folders of previews and lines are read with it, and may be missing.

A second section for a page replaces the first one.
-/

namespace StaticSite.Spec

/-- Where the content of pages comes from: the texts of files by name, already turned into HTML. -/
structure ContentSource where
  /-- The path of a content file, for messages. -/
  contentPath : Text → Path
  content : Text → Except FileError Text
  preview : Text → Except FileError Text
  line : Text → Except FileError Text

/-- The line after which the entries of a section define variables. -/
def variablesLine : Text :=
  "variables:".toList

/-- The page file read so far. -/
structure PagesState where
  pages : PageSet := ∅
  /-- The page whose section is being read. -/
  current : Option Text := none
  /-- Whether entries define variables. -/
  inVariables : Bool := false

namespace PagesState

/-- The name in a section header, if the line begins like one: `some none` for one that is not
closed. -/
def header? : Text → Option (Option Text)
  | '[' :: rest => some (Text.dropEnd? [']'] rest)
  | _ => none

/-- Begins the section of a page. -/
def beginSection (name : Text) (s : PagesState) : Outcome PagesState :=
  ⟨.readingPage name :: (if s.pages.contains name then [.pageDefinedTwice name] else []),
    .ok ⟨s.pages.insert name {}, some name, false⟩⟩

/-- A page with the content, and where there are any the preview and the line, that a content entry
names. -/
def readContent (source : ContentSource) (name : Text) (page : Page) (stem : Text) : Outcome Page :=
  match source.content stem with
  | .error cause => .fail (.contentNotFound name (source.contentPath stem) cause)
  | .ok content =>
    let page := { page with content := content }
    let (previewLog, page) :=
      match source.preview stem with
      | .ok preview => ([], { page with preview := preview })
      | .error _ => ([LogEntry.skippingPreview name], page)
    let (lineLog, page) :=
      match source.line stem with
      | .ok line => ([], { page with line := line })
      | .error _ => ([LogEntry.skippingLine name], page)
    ⟨previewLog ++ lineLog, .ok page⟩

/-- A page with one entry of its section taken in. -/
def readField (source : ContentSource) (name : Text) (page : Page) (key value : Text) :
    Outcome Page :=
  if key = "template".toList then .ok { page with template := value }
  else if key = "url".toList then .ok { page with url := value }
  else if key = "title".toList then .ok { page with title := value }
  else if key = "date".toList then .ok { page with date := value }
  else if key = "author".toList then .ok { page with author := value }
  else if key = "group".toList then .ok { page with group := value }
  else if key = "unlisted".toList then .ok { page with unlisted := true }
  else if key = "content".toList then readContent source name page value
  else .fail (.unknownField name key)

/-- Takes in an entry of the section being read. -/
def readEntry (source : ContentSource) (number : Nat) (text : Text) (s : PagesState) :
    Outcome PagesState :=
  match entry number text with
  | .error e => .fail e
  | .ok (key, value) =>
    match s.current with
    | none => .fail (.malformedLine number (some text))
    | some name =>
      match s.pages.find? name with
      | none => .ok s
      | some page =>
        if s.inVariables then
          let page := { page with bindings := page.bindings.insert key value }
          .ok { s with pages := s.pages.insert name page }
        else
          (readField source name page key value).andThen fun page =>
            .ok { s with pages := s.pages.insert name page }

/-- Reads one line. -/
def readLine (source : ContentSource) (number : Nat) (line : Line) (s : PagesState) :
    Outcome PagesState :=
  match line with
  | none => .fail (.malformedLine number none)
  | some text =>
    if text.isEmpty then .ok s
    else
      match header? text with
      | some none => .fail (.malformedLine number (some text))
      | some (some name) => beginSection name s
      | none =>
        if text = variablesLine then .ok { s with inVariables := true }
        else readEntry source number text s

/-- Reads lines, the first of which has a given number. -/
def readLines (source : ContentSource) (number : Nat) : List Line → PagesState → Outcome PagesState
  | [], s => .ok s
  | line :: lines, s =>
    (readLine source number line s).andThen (readLines source (number + 1) lines)

end PagesState

/-- The pages of a page file. -/
def parsePages (source : ContentSource) (lines : List Line) : Outcome PageSet :=
  (PagesState.readLines source 1 lines {}).andThen fun s => .ok s.pages

end StaticSite.Spec
