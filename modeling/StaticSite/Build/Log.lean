import StaticSite.File.Path

/-!
# The build log

What a build reports while it runs. An entry is an event with the names that it concerns; its
level, the part of the program that it comes from and its words are functions of the event.
-/

namespace StaticSite

/-- How much an entry of the log matters, the gravest first. -/
inductive LogLevel
  | error
  | warn
  | info
  | debug
  | trace
  deriving DecidableEq, Repr, Inhabited

namespace LogLevel

/-- The place of a level in the order of gravity, from one. -/
def rank : LogLevel → Nat
  | error => 1
  | warn => 2
  | info => 3
  | debug => 4
  | trace => 5

/-- The name of a level. -/
def name : LogLevel → String
  | error => "ERROR"
  | warn => "WARN"
  | info => "INFO"
  | debug => "DEBUG"
  | trace => "TRACE"

end LogLevel

/-- The parts of a build that write to the log. -/
inductive LogOrigin
  | compiler
  | templates
  | pages
  | globals
  | lists
  | layout
  | markdown
  deriving DecidableEq, Repr, Inhabited

/-- An event that a build reports. -/
inductive LogEntry
  | started
  | deletingDestination (path : Path)
  | noStaticFiles (path : Path)
  | copying (source target : Path)
  | loadingPages (path : Path)
  | loadingGlobals (path : Path)
  | loadingPage (name : Text)
  | finished
  | readingPage (name : Text)
  /-- A page has a second section, which replaces the first one. -/
  | pageDefinedTwice (name : Text)
  | skippingPreview (page : Text)
  | skippingLine (page : Text)
  /-- A global variable takes its value for production. -/
  | usingProductionValue (name : Text)
  /-- A value for production comes before any variable. -/
  | ignoringProductionValue (line : Nat)
  | loadingTemplate (name : Text)
  /-- A template is known already. -/
  | fetchingTemplate (name : Text)
  /-- A list block is replaced by its repetitions. -/
  | expandingList (group : Text) (selected requested : Nat)
  | readingLayout (path : Path)
  | unknownTheme (name : Text)
  deriving DecidableEq, Repr, Inhabited

namespace LogEntry

/-- The level of an entry. -/
def level : LogEntry → LogLevel
  | started | loadingPages _ | loadingGlobals _ | loadingPage _ | finished | loadingTemplate _ =>
    .info
  | deletingDestination _ | noStaticFiles _ | pageDefinedTwice _ | skippingPreview _
  | skippingLine _ | ignoringProductionValue _ | unknownTheme _ => .warn
  | copying _ _ | readingPage _ | usingProductionValue _ | fetchingTemplate _
  | expandingList _ _ _ | readingLayout _ => .debug

/-- The part of a build that an entry comes from. -/
def origin : LogEntry → LogOrigin
  | started | deletingDestination _ | noStaticFiles _ | copying _ _ | loadingPages _
  | loadingGlobals _ | loadingPage _ | finished => .compiler
  | readingPage _ | pageDefinedTwice _ | skippingPreview _ | skippingLine _ => .pages
  | usingProductionValue _ | ignoringProductionValue _ => .globals
  | loadingTemplate _ | fetchingTemplate _ => .templates
  | expandingList _ _ _ => .lists
  | readingLayout _ => .layout
  | unknownTheme _ => .markdown

/-- The theme that stands in for an unknown one. -/
def fallbackThemeName : String := "base16-ocean.dark"

/-- The words of an entry. -/
def message : LogEntry → Text
  | started => "Starting compilation.".toList
  | deletingDestination path => "Deleting all contents of ".toList ++ path
  | noStaticFiles path => "No static directory at ".toList ++ path ++ ", skipping".toList
  | copying source target => "Copying ".toList ++ source ++ " to ".toList ++ target
  | loadingPages path => "Loading page specs from ".toList ++ path
  | loadingGlobals path => "Loading global variables from ".toList ++ path
  | loadingPage name => "Loading page ".toList ++ name
  | finished => "Compilation complete.".toList
  | readingPage name => "Parsing spec for ".toList ++ name
  | pageDefinedTwice name =>
    "Page ".toList ++ name ++ " is defined twice, keeping the last definition".toList
  | skippingPreview page => "Skipping \x60preview\x60 for ".toList ++ page
  | skippingLine page => "Skipping \x60line\x60 for ".toList ++ page
  | usingProductionValue name => "Using production value for ".toList ++ name
  | ignoringProductionValue line =>
    "Ignoring \x60prod\x60 on line ".toList ++ Text.ofNat line ++
      ": no variable defined before it".toList
  | loadingTemplate name => "Loading template ".toList ++ name
  | fetchingTemplate name => "Fetching cached template ".toList ++ name
  | expandingList group selected requested =>
    "Expanding list block ".toList ++ group ++ " with ".toList ++ Text.ofNat selected ++
      " of ".toList ++ Text.ofNat requested ++ " requested pages".toList
  | readingLayout path => "Reading layout from ".toList ++ path
  | unknownTheme name =>
    "Unknown syntax theme ".toList ++ name ++ ", using ".toList ++ fallbackThemeName.toList

end LogEntry

end StaticSite
