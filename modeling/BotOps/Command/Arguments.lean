/-!
# Arguments

The arguments name a command and may give two options, before the command or behind it. What is
given behind the command counts more. Each level takes an option once.
-/

namespace BotOps.Command

/-- What the program can be asked to do. -/
inductive Task where
  | entitlements
  | graphs
  | migrate
deriving DecidableEq, Repr, Inhabited

/-- The command of a word. -/
def Task.ofWord? (word : String) : Option Task :=
  match word with
  | "entitlements" => some .entitlements
  | "graphs" => some .graphs
  | "migrate" => some .migrate
  | _ => none

/-- Why arguments name no command to execute. -/
inductive Refusal where
  /-- Help is asked for. -/
  | help
  /-- The version is asked for. -/
  | version
  /-- There is nothing at all, so help is given. -/
  | nothingGiven
  | missingCommand
  | unknownCommand
  | unknownArgument
  /-- An option has no value, or none that it can take. -/
  | badValue
  /-- An option is given twice. -/
  | conflict
  /-- A flag is given a value. -/
  | surplusValue
deriving DecidableEq, Repr, Inhabited

/-- The status with which the program ends. -/
def Refusal.exitStatus : Refusal → UInt8
  | .help => 0
  | .version => 0
  | _ => 2

/-- The options. -/
inductive Choice where
  | config
  | logLevel
deriving DecidableEq, Repr, Inhabited

/-- The options read at one level. The last one may still wait for its value, or for being
counted. -/
structure Options where
  config : Option String
  logLevel : Option String
  pending : Option (Choice × Option String)
deriving DecidableEq, Repr, Inhabited

namespace Options

/-- No options. -/
def none : Options := ⟨.none, .none, .none⟩

/-- Counts the value of an option. A path must not be empty. -/
def give (options : Options) (choice : Choice) (value : String) : Except Refusal Options :=
  match choice with
  | .config =>
    if options.config.isSome then .error .conflict
    else if value = "" then .error .badValue
    else .ok { options with config := some value }
  | .logLevel =>
    if options.logLevel.isSome then .error .conflict
    else .ok { options with logLevel := some value }

/-- Counts the option that is pending. -/
def settle (options : Options) : Except Refusal Options :=
  match options.pending with
  | .none => .ok options
  | some (choice, some value) => give { options with pending := .none } choice value
  | some (_, .none) => .error .badValue

/-- Takes an option with its value attached, or one whose value is still to come. -/
def take (options : Options) (choice : Choice) (value : Option String) :
    Except Refusal Options := do
  let options ← options.settle
  match value with
  | some value => options.give choice value
  | .none => .ok { options with pending := some (choice, .none) }

/-- The option that waits for its value. -/
def waiting? (options : Options) : Option Choice :=
  match options.pending with
  | some (choice, .none) => some choice
  | _ => .none

/-- Some option was given. -/
def isGiven (options : Options) : Bool := options.config.isSome || options.logLevel.isSome

end Options

/-- What an argument looks like. -/
inductive Shape where
  /-- Two hyphens: only words follow. -/
  | divider
  /-- A name behind two hyphens and what follows an equals sign. -/
  | long (name : String) (value : Option String)
  /-- A letter behind a hyphen and what follows it. -/
  | short (letter : Char) (rest : List Char)
  | word
deriving DecidableEq, Repr, Inhabited

/-- The shape of an argument. A single hyphen is a word. -/
def Shape.of (argument : String) : Shape :=
  match argument.toList with
  | ['-', '-'] => .divider
  | '-' :: '-' :: rest =>
    let name := rest.takeWhile (· != '=')
    let value := match rest.drop name.length with
      | [] => none
      | _ :: value => some (String.ofList value)
    .long (String.ofList name) value
  | '-' :: letter :: rest => .short letter rest
  | _ => .word

/-- The value attached to a letter; an equals sign before it does not belong to it. -/
def attached (rest : List Char) : Option String :=
  match rest with
  | [] => none
  | '=' :: value => some (String.ofList value)
  | value => some (String.ofList value)

/-- Takes an argument that begins with a hyphen. Only the outer level tells the version. -/
def takeFlag (outer : Bool) (options : Options) (shape : Shape) : Except Refusal Options := do
  match shape with
  | .long "config" value => options.take .config value
  | .long "log-level" value => options.take .logLevel value
  | .long "help" none =>
    let _ ← options.settle
    throw .help
  | .long "help" (some _) => throw .surplusValue
  | .long "version" value =>
    if !outer then throw .unknownArgument
    else if value.isSome then throw .surplusValue
    else
      let _ ← options.settle
      throw .version
  | .short 'c' rest => options.take .config (attached rest)
  | .short 'l' rest => options.take .logLevel (attached rest)
  | .short 'h' _ =>
    let _ ← options.settle
    throw .help
  | .short 'V' _ =>
    if !outer then throw .unknownArgument
    else
      let _ ← options.settle
      throw .version
  | _ => throw .unknownArgument

/-- Reads the words behind a request for help, which may name a command. -/
def helpFor (words : List String) : Refusal :=
  match words with
  | [] => .help
  | [word] => if word = "help" || (Task.ofWord? word).isSome then .help else .unknownCommand
  | _ => .unknownCommand

/-- Reads the options behind a command, where no words may follow. -/
def readInner (options : Options) (divided : Bool) : List String → Except Refusal Options
  | [] => options.settle
  | argument :: rest =>
    match options.waiting?, Shape.of argument, divided with
    | _, _, true => .error .unknownArgument
    | _, .divider, false => readInner options true rest
    | some choice, .word, false =>
      readInner { options with pending := some (choice, some argument) } false rest
    | none, .word, false => .error .unknownArgument
    | _, shape, false => do
      let options ← takeFlag false options shape
      readInner options false rest

/-- What arguments ask for. -/
structure Arguments where
  task : Task
  config : String
  logLevel : String
deriving DecidableEq, Repr, Inhabited

namespace Arguments

/-- The path of the configuration unless the arguments give another. -/
def defaultConfig : String := "config.toml"

/-- The log level unless the arguments give another. -/
def defaultLogLevel : String := "info"

/-- The arguments of a command with the options of both levels. -/
def combine (task : Task) (outer inner : Options) : Arguments where
  task := task
  config := (inner.config.or outer.config).getD defaultConfig
  logLevel := (inner.logLevel.or outer.logLevel).getD defaultLogLevel

/-- Ends without a command. -/
def withoutCommand (options : Options) : Except Refusal Arguments := do
  let options ← options.settle
  throw (if options.isGiven then .missingCommand else .nothingGiven)

/-- Reads a word that is no value of an option: the command, or a request for help. -/
def readWord (options : Options) (word : String) (rest : List String) :
    Except Refusal Arguments := do
  match Task.ofWord? word with
  | some task =>
    let inner ← readInner .none false rest
    let outer ← options.settle
    return combine task outer inner
  | none => throw (if word = "help" then helpFor rest else .unknownCommand)

/-- Reads the arguments before the command and the command. -/
def read (options : Options) (divided : Bool) : List String → Except Refusal Arguments
  | [] => withoutCommand options
  | argument :: rest =>
    match options.waiting?, Shape.of argument, divided with
    | _, _, true =>
      .error (if argument = "help" || (Task.ofWord? argument).isSome then .unknownArgument
        else .unknownCommand)
    | _, .divider, false => read options true rest
    | some choice, .word, false =>
      read { options with pending := some (choice, some argument) } false rest
    | none, .word, false => readWord options argument rest
    | _, shape, false => do
      let options ← takeFlag true options shape
      read options false rest

/-- What the arguments behind the name of the program ask for. -/
def parse (arguments : List String) : Except Refusal Arguments := read .none false arguments

end Arguments

end BotOps.Command
