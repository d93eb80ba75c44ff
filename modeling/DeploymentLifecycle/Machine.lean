import DeploymentLifecycle.Environment
import DeploymentLifecycle.FileTree
import DeploymentLifecycle.Host
import DeploymentLifecycle.Text.Utf8

namespace DeploymentLifecycle

/-! A machine in memory: a tree of files, environment variables, a clock, and programs of which it is
known beforehand what they will write. It has no network. -/

/-- What a program does when it is run: it reads its input, pauses and writes. -/
structure Performance where
  pause : Duration := .zero
  status : Int := 0
  output : List UInt8 := []
  complaints : List UInt8 := []

/-- `performances` are those that are still to come, `executions` those that were run. -/
structure Machine where
  files : FileTree := .directory []
  current : FileTree.Place := []
  environment : Environment := {}
  clock : Duration := .zero
  given : Nat := 0
  performances : List Performance := []
  executions : List Host.Execution := []
  printed : List String := []
  complained : List String := []

namespace Machine

def currentDirectory (machine : Machine) : Path :=
  ⟨"/" ++ "/".intercalate machine.current⟩

def advance (machine : Machine) (time : Duration) : Machine :=
  { machine with clock := machine.clock + time }

/-- Replaces the files, unless that is what failed. -/
def changeFiles (machine : Machine) (files : Except IoError FileTree) :
    Except IoError Unit × Machine :=
  match files with
  | .ok files => (.ok (), { machine with files })
  | .error cause => (.error cause, machine)

/-- Whether a path names something that can be run. -/
def executable (machine : Machine) (path : Path) : Except IoError Unit := do
  match machine.files.at? (← machine.files.locate machine.current path) with
  | some .program => return ()
  | some _ => throw .permissionDenied
  | none => throw .notFound

/-- Whether a search goes on in the next directory after a failure in one. -/
def isPassedOver (cause : IoError) : Bool :=
  [.notFound, .notADirectory, .permissionDenied].contains cause

/-- Looks for a program in directories, one after another. A lack of permission is remembered, else
the last failure counts. -/
def findIn (machine : Machine) (name : Path) : List String → IoError → Except IoError Unit
  | [], failure => .error failure
  | directory :: rest, failure =>
    match machine.executable ((Path.mk directory).join name) with
    | .ok () => .ok ()
    | .error cause =>
      if isPassedOver cause then
        machine.findIn name rest (if failure = .permissionDenied then failure else cause)
      else .error cause

/-- Where programs are looked for if the environment does not say. -/
def standardSearchPath : String := "/bin:/usr/bin"

def searchPath (machine : Machine) : List String :=
  ((machine.environment.get? "PATH").getD standardSearchPath).splitOn ":"

/-- Finds the program of a command: a text without a slash is looked for along the search path. -/
def find (machine : Machine) (command : Path) : Except IoError Unit :=
  if command.text.isEmpty then .error .notFound
  else if command.text.toList.contains '/' then machine.executable command
  else if command.text.utf8ByteSize > FileTree.longestName then .error .nameTooLong
  else machine.findIn command machine.searchPath .notFound

/-- Refuses a command line that cannot be handed over. -/
def checkCommandLine (execution : Host.Execution) : Except IoError Unit :=
  if (execution.command.text :: execution.arguments).any fun text => text.toList.contains '\x00' then
    .error .nulInArgument
  else .ok ()

/-- Runs a program; after the last performance that is known it writes nothing. -/
def run (machine : Machine) (execution : Host.Execution) : Host.Execution.Outcome × Machine :=
  match checkCommandLine execution *> machine.find execution.command with
  | .error cause => (.failed cause, machine)
  | .ok () =>
    let (performance, rest) := match machine.performances with
      | [] => (({} : Performance), [])
      | next :: rest => (next, rest)
    let machine := { machine with
      performances := rest, executions := machine.executions ++ [execution] }
    if performance.pause < execution.limit then
      (.ended performance.status performance.output performance.complaints,
        machine.advance performance.pause)
    else (.silent, machine.advance execution.limit)

/-- Whether the host of an address is given in numbers or is the machine itself, so that there is
nothing to look up. -/
def isNumeric (address : String) : Bool :=
  let host := address.toList.takeWhile (· != ':')
  host.head? == some '[' || host == "localhost".toList || host.all fun c => c.isDigit || c == '.'

/-- Why a peer cannot be reached. -/
def unreachable (address : String) : IoError :=
  if isNumeric address then .networkUnreachable else .hostNotFound

/-- Answers a request. `name` tells identifiers apart by their number. A look at the clock takes a
nanosecond. -/
def answer (name : Nat → String) : (request : Host.Request) → StateM Machine (Host.Answer request)
  | .currentDirectory => do return .ok (← get).currentDirectory
  | .variable key => do return (← get).environment.get? key
  | .isPresent path => do
    let machine ← get
    return machine.files.exists? machine.current path
  | .read path => do
    let machine ← get
    return machine.files.read machine.current path
  | .write path content => modifyGet fun machine =>
    machine.changeFiles (machine.files.write machine.current path (Text.encode content))
  | .makeDirectories path => modifyGet fun machine =>
    let (outcome, files) := machine.files.makeDirectories machine.current path
    (outcome, { machine with files })
  | .rename source target => modifyGet fun machine =>
    machine.changeFiles (machine.files.rename machine.current source target)
  | .run execution => modifyGet fun machine => machine.run execution
  | .exchange message => return .unreachable (unreachable message.address)
  | .freshId => modifyGet fun machine =>
    (name machine.given, { machine with given := machine.given + 1 })
  | .now => modifyGet fun machine => (machine.clock, machine.advance ⟨1⟩)
  | .sleep time => modify (·.advance time)
  | .print line => modify fun machine => { machine with printed := machine.printed ++ [line] }
  | .complain line => modify fun machine =>
    { machine with complained := machine.complained ++ [line] }

end Machine

end DeploymentLifecycle
