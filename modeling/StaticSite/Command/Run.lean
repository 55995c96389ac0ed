import StaticSite.Command.Help
import StaticSite.Command.LogFilter
import StaticSite.Command.Settings
import StaticSite.Site.Compile

/-!
# Running the command

A run of the command is a function of the files, the arguments and the environment: it answers with
a report (the exit code and what is written to the two output streams) and the files that it leaves.

The command reports its own events beside those of the build. All of them pass a filter, and those
that are left are written line by line; further lines of a message are indented.
-/

namespace StaticSite.Command

/-- An event that a run reports. -/
inductive Event
  | sourceSet (path : Path)
  | destinationSet (path : Path)
  | productionSet
  | build (entry : LogEntry)
  | written (summary : BuildSummary) (destination : Path)
  | failed (source : Path) (error : BuildError)
  deriving DecidableEq, Repr, Inhabited

/-- The words for a build error with those for the failure beneath it. -/
def chain (e : BuildError) : Text :=
  match e.cause? with
  | none => e.message
  | some cause => e.message ++ ": ".toList ++ cause.message.toList

namespace Event

/-- The level of an event. -/
def level : Event → LogLevel
  | sourceSet _ | destinationSet _ | productionSet | written _ _ => .info
  | build entry => entry.level
  | failed _ _ => .error

/-- The target of an entry of the build, by which filters choose. -/
def targetOf : LogOrigin → String
  | .compiler => "stencil_core::compiler"
  | .templates => "stencil_core::template"
  | .pages => "stencil_core::pages"
  | .globals => "stencil_core::globals"
  | .lists => "stencil_core::list"
  | .layout => "stencil_core::config"
  | .markdown => "stencil_core::markdown"

/-- The target of an event, by which filters choose. -/
def target : Event → String
  | sourceSet _ | destinationSet _ | productionSet | written _ _ => "stencil::cmd::build"
  | build entry => targetOf entry.origin
  | failed _ _ => "stencil"

/-- The words of an event. -/
def message : Event → Text
  | sourceSet path => "Source directory set to ".toList ++ path
  | destinationSet path => "Destination directory set to ".toList ++ path
  | productionSet => "Production flag is set".toList
  | build entry => entry.message
  | written summary destination =>
    "Wrote ".toList ++ Text.ofNat summary.pages ++ " pages and ".toList ++
      Text.ofNat summary.staticFiles ++ " static files to ".toList ++ destination
  | failed source error => "failed to compile ".toList ++ source ++ ": ".toList ++ chain error

/-- The width of the name of a level. -/
def levelWidth : Nat := 5

/-- The lines in which an event is written: its level and its words, whose further lines are
indented. -/
def lines (e : Event) : Text :=
  let label := e.level.name.toList
  let padding := List.replicate (levelWidth - label.length) ' '
  let words := Text.join "\n    ".toList (Text.splitOnChar '\n' e.message)
  '[' :: label ++ padding ++ "] ".toList ++ words ++ ['\n']

end Event

/-- What a run shows for itself. -/
structure Report where
  exitCode : UInt32
  output : Text
  errorOutput : Text
  deriving DecidableEq, Repr, Inhabited

/-- The exit code of a run that failed. -/
def failureCode : UInt32 := 1

/-- The variable that holds the log filter. -/
def filterVariable : Text :=
  "RUST_LOG".toList

/-- The log filter of a run: what the settings ask for, changed by what the environment says. -/
def logFilter (settings : Settings) (environment : Environment) : LogFilter :=
  let filter := LogFilter.ofLimit (.upTo (if settings.debug then .debug else .info))
  match environment.value? filterVariable with
  | none => filter
  | some t => filter.extend t

/-- What a filter leaves of some events, as text. -/
def showEvents (filter : LogFilter) (events : List Event) : Text :=
  (events.filter fun e => filter.allows e.target.toList e.level e.message).flatMap Event.lines

/-- Builds a site; answers with what happened, whether it went well, and the files that are left. -/
def build (settings : Settings) (files : FileSystem) : List Event × Bool × FileSystem :=
  let first :=
    [Event.sourceSet settings.source, .destinationSet settings.destination] ++
      if settings.production then [.productionSet] else []
  let (outcome, files) :=
    (compileSite
      { source := settings.source
        destination := settings.destination
        production := settings.production }).run files
  let events := first ++ outcome.log.map Event.build
  match outcome.result with
  | .ok summary => (events ++ [.written summary settings.destination], true, files)
  | .error e => (events ++ [.failed settings.source e], false, files)

/-- Runs the command. -/
def run (arguments : List Text) (environment : Environment) (files : FileSystem) :
    Report × FileSystem :=
  match Request.ofArguments arguments with
  | .error e =>
    let message := "error: ".toList ++ e.message ++ "\n\n".toList ++ usage.toList ++ ['\n']
    (⟨failureCode, [], message⟩, files)
  | .ok .help => (⟨0, helpText, []⟩, files)
  | .ok .version => (⟨0, versionText, []⟩, files)
  | .ok (.build arguments) =>
    match Settings.load files environment arguments with
    | .error e =>
      let message := "failed to load configuration: ".toList ++ e.message ++ ['\n']
      (⟨failureCode, [], message⟩, files)
    | .ok settings =>
      let (events, success, files) := build settings files
      let filter := logFilter settings environment
      (⟨if success then 0 else failureCode, [], showEvents filter events⟩, files)

end StaticSite.Command
