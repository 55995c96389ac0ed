import StaticSite.Command.Arguments
import StaticSite.Config.Json
import StaticSite.Config.Toml.Document
import StaticSite.File.System

/-!
# Settings of a build

What a build does is put together from layers. The first layer are the defaults; the build
configuration file, the environment and the arguments are laid over it in this order. Flags only
switch things on, so a file can switch on what no flag asks for.
-/

namespace StaticSite.Command

/-- The settings of a build. -/
structure Settings where
  source : Path
  destination : Path
  production : Bool
  debug : Bool
  deriving DecidableEq, Repr, Inhabited

/-- Why there are no settings. -/
inductive SettingsError
  | unknownFormat (path : Path)
  | unreadable (path : Path) (cause : FileError)
  | malformed (path : Path)
  /-- A setting is missing or has a value of the wrong kind. -/
  | unusable (name : Text)
  deriving DecidableEq, Repr, Inhabited

/-- The words for a failure to put settings together. -/
def SettingsError.message : SettingsError → Text
  | unknownFormat path => "unknown format of ".toList ++ path
  | unreadable path cause => path ++ ": ".toList ++ cause.message.toList
  | malformed path => "malformed configuration in ".toList ++ path
  | unusable name => "missing or unusable setting \x60".toList ++ name ++ "\x60".toList

/-- Values of variables by their names. -/
abbrev Environment := List (Text × Text)

/-- The value of a variable. -/
def Environment.value? (name : Text) : Environment → Option Text
  | [] => none
  | (key, value) :: rest => if key = name then some value else Environment.value? name rest

/-! ## The configuration file -/

/-- The formats of configuration files. -/
inductive ConfigFormat
  | toml
  | json
  deriving DecidableEq, Repr, Inhabited

namespace ConfigFormat

/-- The extension of the files in a format. -/
def suffix : ConfigFormat → Text
  | toml => "toml".toList
  | json => "json".toList

/-- The format of a file by its name: by what follows the last dot that is not the first
character. -/
def ofName? (name : Text) : Option ConfigFormat :=
  match name.reverse.dropWhile fun c => c != '.' with
  | [] | ['.'] => none
  | _ =>
    let suffix := (name.reverse.takeWhile fun c => c != '.').reverse
    [toml, json].find? fun format => format.suffix = suffix

/-- The value that a text has in a format. -/
def parse? : ConfigFormat → Text → Option ConfigValue
  | toml, t =>
    (Toml.parse? t).filter fun value =>
      value.allNumbers (fun n => leastInt64 ≤ n && n ≤ greatestInt64) fun x => !x.overflows
  | json, t => Json.parse? t

end ConfigFormat

/-- A text without a byte order mark at its beginning. -/
def dropByteOrderMark (t : Text) : Text :=
  if t.head? = some '\uFEFF' then t.drop 1 else t

/-- The members of the configuration file at a place. The root of the file has to be a table. -/
def readConfig (path : Path) (format : ConfigFormat) (content : ByteArray) :
    Except SettingsError (List (Text × ConfigValue)) :=
  match format.parse? (dropByteOrderMark (Text.decodeLossy content)) with
  | some (.table members) => .ok members
  | _ => .error (.malformed path)

/-- A file beside a directory that has the name of the directory and the extension of a format. -/
def besideDirectory? (files : FileSystem) (place : Location) :
    Option (ConfigFormat × ByteArray) :=
  match place.getLast? with
  | none => none
  | some name =>
    [ConfigFormat.toml, .json].findSome? fun format =>
      match files.entryAt? (place.dropLast ++ [name ++ '.' :: format.suffix]) with
      | some (.file content) => some (format, content)
      | _ => none

/-- What the configuration file at a path says; nothing if there is none. A path of a directory
stands for a file beside the directory. -/
def configMembers (files : FileSystem) (path : Path) :
    Except SettingsError (List (Text × ConfigValue)) :=
  match files.find path with
  | .error _ => .ok []
  | .ok (place, .file content) =>
    match ConfigFormat.ofName? (place.getLast?.getD []) with
    | none => .error (.unknownFormat path)
    | some format => readConfig path format content
  | .ok (place, .directory) =>
    if (Path.parts path).getLast? = some ['.', '.'] then .error (.unreadable path .isADirectory)
    else
      match besideDirectory? files place with
      | none => .error (.unreadable path .isADirectory)
      | some (format, content) => readConfig path format content

/-! ## The environment -/

/-- The beginning of the names of variables that are settings, in small letters. -/
def variablePrefix : Text :=
  "stencil_".toList

/-- The text with dots in place of double underscores, from left to right. -/
def dotted : Text → Text
  | '_' :: '_' :: t => '.' :: dotted t
  | c :: t => c :: dotted t
  | [] => []

/-- The value that the text of a variable stands for. -/
def variableValue (t : Text) : ConfigValue :=
  let word := String.ofList (Text.toLowerAscii t)
  if word = "true" then .boolean true
  else if word = "false" then .boolean false
  else
    match int64OfText? t, Decimal.ofText? t with
    | some n, _ => .integer n
    | none, some x => .decimal x
    | none, none => .text t

/-- The settings in the environment, by their paths. The case of the names does not matter. -/
def environmentMembers (environment : Environment) : List (Text × ConfigValue) :=
  environment.filterMap fun (name, value) =>
    (Text.dropStart? variablePrefix (Text.toLowerAscii name)).map fun key =>
      (dotted key, variableValue value)

/-! ## Layers -/

/-- The settings that hold when nothing else is said. -/
def defaultMembers : List (Text × ConfigValue) :=
  [("build".toList, .table
    [("source".toList, .text "./site".toList),
      ("destination".toList, .text "./out".toList),
      ("prod".toList, .boolean false),
      ("debug".toList, .boolean false)])]

/-- The settings in the arguments, by their paths. -/
def argumentMembers (arguments : Arguments) : List (Text × ConfigValue) :=
  [("build.source".toList, .text arguments.source),
    ("build.destination".toList, .text arguments.destination)] ++
  (if arguments.production then [("build.prod".toList, .boolean true)] else []) ++
  (if arguments.debug then [("build.debug".toList, .boolean true)] else [])

namespace Settings

/-- A truth value among the settings. -/
def flag (build : ConfigValue) (name : Text) : Except SettingsError Bool :=
  match (build.member? name).bind ConfigValue.toBool? with
  | some b => .ok b
  | none => .error (.unusable name)

/-- The settings that a configuration with all its layers says. -/
def ofConfig (arguments : Arguments) (config : ConfigValue) : Except SettingsError Settings :=
  match config.member? "build".toList with
  | some (.table members) => do
    let production ← flag (.table members) "prod".toList
    let debug ← flag (.table members) "debug".toList
    pure
      { source := arguments.source
        destination := arguments.destination
        production
        debug }
  | _ => .error (.unusable "build".toList)

/-- The settings of a build, from all their layers. -/
def load (files : FileSystem) (environment : Environment) (arguments : Arguments) :
    Except SettingsError Settings := do
  let fromFile ← configMembers files arguments.configFile
  let layers :=
    [defaultMembers, fromFile, environmentMembers environment, argumentMembers arguments]
  ofConfig arguments (layers.foldl ConfigValue.overlayKeys (.table []))

end Settings

end StaticSite.Command
