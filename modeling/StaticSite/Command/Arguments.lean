import StaticSite.File.Path

/-!
# Arguments of the command line

What a user asks for with the arguments of a command: help, the version, or a build. Arguments are
read from left to right, and the first one that asks for help, asks for the version or cannot be
understood decides the answer; that an argument is missing is found out last.

A flag may be written with one dash or two where its name is long (`-prod`), short flags may share a
dash (`-dp`), and the value of an option follows it as the next argument, behind `=`, or, for a short
option, at once. Behind a lone `--` nothing is an option.
-/

namespace StaticSite.Command

/-- What a build is asked to do on the command line. -/
structure Arguments where
  source : Path
  destination : Path
  production : Bool
  debug : Bool
  configFile : Path
  deriving DecidableEq, Repr, Inhabited

/-- Why arguments cannot be understood. -/
inductive UsageError
  | unknownOption (name : Text)
  | repeatedOption (name : Text)
  | unexpectedValue (name value : Text)
  | missingValue (name : Text)
  /-- There is one argument more than there are places for it. -/
  | unexpectedArgument (argument : Text)
  /-- There is no destination, or not even a source. -/
  | missingArguments (names : List Text)
  deriving DecidableEq, Repr, Inhabited

/-- The words for a misuse of the command line. -/
def UsageError.message : UsageError → Text
  | unknownOption name => "unexpected option '".toList ++ name ++ "' found".toList
  | repeatedOption name => "the option '".toList ++ name ++ "' cannot be used twice".toList
  | unexpectedValue name value =>
    "unexpected value '".toList ++ value ++ "' for '".toList ++ name ++ "' found".toList
  | missingValue name => "a value is required for '".toList ++ name ++ "'".toList
  | unexpectedArgument argument => "unexpected argument '".toList ++ argument ++ "' found".toList
  | missingArguments names =>
    "missing arguments: ".toList ++ Text.join " ".toList names

/-- What a user asks for. -/
inductive Request
  /-- How the command is used. -/
  | help
  | version
  | build (arguments : Arguments)
  deriving DecidableEq, Repr, Inhabited

/-! ## Options -/

/-- The options of the command. -/
inductive CommandOption
  | production
  | debug
  | configFile
  | help
  | version
  deriving DecidableEq, Repr, Inhabited

namespace CommandOption

/-- The options, in the order of the help. -/
def all : List CommandOption :=
  [production, debug, configFile, help, version]

/-- The letter of an option. -/
def letter : CommandOption → Char
  | production => 'p'
  | debug => 'd'
  | configFile => 'c'
  | help => 'h'
  | version => 'V'

/-- The name of an option, with its dashes. -/
def name : CommandOption → Text
  | production => "--prod".toList
  | debug => "--debug".toList
  | configFile => "--config".toList
  | help => "--help".toList
  | version => "--version".toList

/-- The option with a letter. -/
def ofLetter? (c : Char) : Option CommandOption :=
  all.find? fun o => o.letter = c

/-- The option with a name. -/
def ofName? (t : Text) : Option CommandOption :=
  all.find? fun o => o.name = t

end CommandOption

/-- The argument with two dashes in place of one where a long flag is written with one. -/
def spellOut (argument : Text) : Text :=
  if argument = "-prod".toList || argument = "-debug".toList then '-' :: argument else argument

/-- Whether an argument is an option or the end of the options. A lone dash is neither. -/
def isOption (argument : Text) : Bool :=
  argument.head? = some '-' && argument != ['-']

/-! ## Reading arguments -/

/-- What the arguments read so far say. -/
structure Draft where
  source : Option Path := none
  destination : Option Path := none
  production : Bool := false
  debug : Bool := false
  configFile : Option Path := none
  /-- Whether the next argument is the value of an option. -/
  awaitsValue : Bool := false
  /-- Whether no more options follow. -/
  optionsEnded : Bool := false
  deriving DecidableEq, Repr, Inhabited

/-- Why reading stops before the last argument. -/
inductive Stop
  | help
  | version
  | misuse (e : UsageError)
  deriving DecidableEq, Repr, Inhabited

namespace Draft

/-- Notes a flag. -/
def raise (d : Draft) : CommandOption → Except Stop Draft
  | .production =>
    if d.production then .error (.misuse (.repeatedOption CommandOption.production.name))
    else .ok { d with production := true }
  | .debug =>
    if d.debug then .error (.misuse (.repeatedOption CommandOption.debug.name))
    else .ok { d with debug := true }
  | .configFile => .ok { d with awaitsValue := true }
  | .help => .error .help
  | .version => .error .version

/-- Notes the file with the build configuration. -/
def setConfigFile (d : Draft) (value : Path) : Except Stop Draft :=
  if d.configFile.isSome then .error (.misuse (.repeatedOption CommandOption.configFile.name))
  else .ok { d with configFile := some value, awaitsValue := false }

/-- Notes an argument that is no option. -/
def addPlain (d : Draft) (argument : Text) : Except Stop Draft :=
  match d.source, d.destination with
  | none, _ => .ok { d with source := some argument }
  | some _, none => .ok { d with destination := some argument }
  | some _, some _ => .error (.misuse (.unexpectedArgument argument))

/-- Reads an option that is written with its name. -/
def readName (d : Draft) (argument : Text) : Except Stop Draft :=
  let (name, value) :=
    match Text.splitOnce? ['='] argument with
    | some (name, value) => (name, some value)
    | none => (argument, none)
  match CommandOption.ofName? name, value with
  | none, _ => .error (.misuse (.unknownOption name))
  | some .configFile, some value => d.setConfigFile value
  | some _, some value => .error (.misuse (.unexpectedValue name value))
  | some o, none => d.raise o

/-- Reads options that share a dash, by their letters. What follows the letter of an option with a
value is that value, with or without `=` between them. -/
def readLetters (d : Draft) : Text → Except Stop Draft
  | [] => .ok d
  | c :: rest =>
    match CommandOption.ofLetter? c with
    | none => .error (.misuse (.unknownOption ['-', c]))
    | some .configFile =>
      match rest with
      | [] => d.raise .configFile
      | '=' :: value => d.setConfigFile value
      | value => d.setConfigFile value
    | some o =>
      match d.raise o with
      | .error stop => .error stop
      | .ok d => d.readLetters rest

/-- Reads an argument. -/
def read (d : Draft) (argument : Text) : Except Stop Draft :=
  if d.optionsEnded then d.addPlain argument
  else if d.awaitsValue then
    if isOption argument then .error (.misuse (.missingValue CommandOption.configFile.name))
    else d.setConfigFile argument
  else
    match argument with
    | ['-', '-'] => .ok { d with optionsEnded := true }
    | '-' :: '-' :: _ => d.readName argument
    | '-' :: c :: rest => d.readLetters (c :: rest)
    | _ => d.addPlain argument

/-- Reads arguments from left to right. -/
def readAll (d : Draft) : List Text → Except Stop Draft
  | [] => .ok d
  | argument :: rest =>
    match d.read argument with
    | .error stop => .error stop
    | .ok d => d.readAll rest

/-- The path of the build configuration, unless another one is given. -/
def defaultConfigFile : Path :=
  "./stencil.toml".toList

/-- The arguments of a build, once all is read. -/
def finish (d : Draft) : Except UsageError Arguments :=
  if d.awaitsValue then .error (.missingValue CommandOption.configFile.name)
  else
    match d.source, d.destination with
    | some source, some destination =>
      .ok
        { source
          destination
          production := d.production
          debug := d.debug
          configFile := d.configFile.getD defaultConfigFile }
    | some _, none => .error (.missingArguments ["<DESTINATION>".toList])
    | none, _ => .error (.missingArguments ["<SOURCE>".toList, "<DESTINATION>".toList])

end Draft

/-- What arguments ask for. -/
def Request.ofArguments (arguments : List Text) : Except UsageError Request :=
  match ({} : Draft).readAll (arguments.map spellOut) with
  | .error .help => .ok .help
  | .error .version => .ok .version
  | .error (.misuse e) => .error e
  | .ok d => d.finish.map .build

end StaticSite.Command
