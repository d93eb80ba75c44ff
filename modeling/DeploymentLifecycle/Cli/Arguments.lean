import DeploymentLifecycle.Path

namespace DeploymentLifecycle.Cli

/-! The command line. Options that hold for every command may stand before or behind its name; behind
it they win. -/

/-- Messages for people, only the final one, or a JSON object per line. -/
inductive OutputMode where
  | normal
  | quiet
  | json
deriving DecidableEq, Repr

inductive Command where
  | init (deployment cpi : Option String) (force : Bool)
  | delete (skipDrain : Bool)
  | stop (skipDrain : Bool)
  | start
  | cleanup
  | status
deriving DecidableEq, Repr

structure Invocation where
  config : Option Path
  verbose : Bool
  output : OutputMode
  command : Command
deriving DecidableEq, Repr

/-- Why a command line names nothing to do. -/
inductive Refusal where
  | version
  | help
  | misuse
deriving DecidableEq, Repr

inductive Flag where
  | verbose | force | skipDrain
deriving DecidableEq, Repr

/-- An option with a value. -/
inductive ValueOption where
  | config | output | deployment | cpi
deriving DecidableEq, Repr

/-- Where on the command line an argument stands: before the name of the command, or behind it. -/
inductive Level where
  | root
  | init
  | draining
  | other
deriving DecidableEq, Repr

/-- What an option's name means: help, the version, a flag, or an option that takes a value. -/
inductive Meaning where
  | help
  | version
  | flag (flag : Flag)
  | option (option : ValueOption)
deriving DecidableEq, Repr

def Level.long? (level : Level) (name : String) : Option Meaning :=
  match level, name with
  | _, "help" => some .help
  | .root, "version" => some .version
  | _, "config" => some (.option .config)
  | _, "verbose" => some (.flag .verbose)
  | _, "output" => some (.option .output)
  | .init, "deployment" => some (.option .deployment)
  | .init, "cpi" => some (.option .cpi)
  | .init, "force" => some (.flag .force)
  | .draining, "skip-drain" => some (.flag .skipDrain)
  | _, _ => none

def Level.short? (level : Level) (letter : Char) : Option Meaning :=
  match level, letter with
  | _, 'h' => some .help
  | .root, 'V' => some .version
  | _, 'c' => some (.option .config)
  | _, 'v' => some (.flag .verbose)
  | .init, 'd' => some (.option .deployment)
  | .init, 'f' => some (.flag .force)
  | _, _ => none

/-- What was given at one level. -/
structure Given where
  flags : List Flag := []
  values : List (ValueOption × String) := []

namespace Given

def has (given : Given) (flag : Flag) : Bool := given.flags.contains flag

def value? (given : Given) (option : ValueOption) : Option String := given.values.lookup option

/-- A flag may be given once at each level. -/
def addFlag (given : Given) (flag : Flag) : Except Refusal Given :=
  if given.has flag then .error .misuse else .ok { given with flags := flag :: given.flags }

/-- Whether an option takes a value: a path must not be empty, and the output mode has three names. -/
def accepts (option : ValueOption) (value : String) : Bool :=
  match option with
  | .config => !value.isEmpty
  | .output => ["normal", "quiet", "json"].contains value
  | .deployment => true
  | .cpi => true

/-- An option may be given once at each level. -/
def addValue (given : Given) (option : ValueOption) (value : String) : Except Refusal Given :=
  if (given.value? option).isSome || !accepts option value then .error .misuse
  else .ok { given with values := (option, value) :: given.values }

end Given

/-- Whether an argument can only be an option. A lone dash is none. -/
def looksLikeOption (argument : String) : Bool :=
  match argument.toList with
  | '-' :: _ :: _ => true
  | _ => false

/-- Takes the value of an option from the next argument. -/
def takeNext (given : Given) (option : ValueOption) : List String → Except Refusal (Given × List String)
  | [] => .error .misuse
  | value :: rest =>
    if looksLikeOption value then .error .misuse
    else do return (← given.addValue option value, rest)

/-- An option in full, with the value that may stand behind an equals sign. -/
def readLong (level : Level) (given : Given) (name : String) (value : Option String)
    (rest : List String) : Except Refusal (Given × List String) :=
  match level.long? name, value with
  | some (.option option), some value => do return (← given.addValue option value, rest)
  | some (.option option), none => takeNext given option rest
  | some (.flag flag), none => do return (← given.addFlag flag, rest)
  | some .help, none => .error .help
  | some .version, none => .error .version
  | _, _ => .error .misuse

/-- Letters behind one dash. The first that stands for an option with a value takes what follows it as
the value, an equals sign left out. -/
def readShort (level : Level) (given : Given) (rest : List String) :
    List Char → Except Refusal (Given × List String)
  | [] => .ok (given, rest)
  | letter :: letters =>
    match level.short? letter with
    | some (.flag flag) => do readShort level (← given.addFlag flag) rest letters
    | some (.option option) =>
      match letters with
      | [] => takeNext given option rest
      | '=' :: value => do return (← given.addValue option (String.ofList value), rest)
      | value => do return (← given.addValue option (String.ofList value), rest)
    | some .help => .error .help
    | some .version => .error .version
    | none => .error .misuse

/-- One argument that looks like an option. -/
def readOption (level : Level) (given : Given) (argument : List Char) (rest : List String) :
    Except Refusal (Given × List String) :=
  match argument with
  | '-' :: '-' :: body =>
    let name := String.ofList (body.takeWhile (· != '='))
    match body.dropWhile (· != '=') with
    | [] => readLong level given name none rest
    | _ :: value => readLong level given name (some (String.ofList value)) rest
  | _ :: letters => readShort level given rest letters
  | [] => .error .misuse

/-- The options at one level, up to the first argument that is none; `--` ends them for good, and
nothing may follow it. -/
def readLevel (level : Level) : Nat → Given → List String → Except Refusal (Given × List String)
  | 0, given, rest => .ok (given, rest)
  | _, given, [] => .ok (given, [])
  | fuel + 1, given, argument :: rest =>
    if argument = "--" then if rest.isEmpty then .ok (given, []) else .error .misuse
    else if looksLikeOption argument then do
      let (given, rest) ← readOption level given argument.toList rest
      readLevel level fuel given rest
    else .ok (given, argument :: rest)

def options (level : Level) (arguments : List String) : Except Refusal (Given × List String) :=
  readLevel level arguments.length {} arguments

def levelOf? (name : String) : Option Level :=
  match name with
  | "init" => some .init
  | "delete" => some .draining
  | "stop" => some .draining
  | "start" => some .other
  | "cleanup" => some .other
  | "status" => some .other
  | _ => none

def commandOf? (name : String) (given : Given) : Option Command :=
  match name with
  | "init" =>
    some (.init (given.value? .deployment) (given.value? .cpi) (given.has .force))
  | "delete" => some (.delete (given.has .skipDrain))
  | "stop" => some (.stop (given.has .skipDrain))
  | "start" => some .start
  | "cleanup" => some .cleanup
  | "status" => some .status
  | _ => none

def modeOf (value : Option String) : OutputMode :=
  match value with
  | some "quiet" => .quiet
  | some "json" => .json
  | _ => .normal

/-- A question for help about one command, or about all. -/
def readHelp (names : List String) : Except Refusal Invocation :=
  match names with
  | [] => .error .help
  | [name] => if (levelOf? name).isSome || name = "help" then .error .help else .error .misuse
  | _ => .error .misuse

/-- Reads a command line without the program's own name. -/
def Invocation.ofArguments (arguments : List String) : Except Refusal Invocation := do
  let (outer, rest) ← options .root arguments
  match rest with
  | [] => throw .misuse
  | "help" :: names => readHelp names
  | name :: rest =>
    match levelOf? name with
    | none => throw .misuse
    | some level =>
      let (inner, rest) ← options level rest
      match rest, commandOf? name inner with
      | [], some command =>
        let value? (option : ValueOption) := (inner.value? option).or (outer.value? option)
        return {
          config := (value? .config).map Path.mk
          verbose := outer.has .verbose || inner.has .verbose
          output := modeOf (value? .output)
          command }
      | _, _ => throw .misuse

end DeploymentLifecycle.Cli
