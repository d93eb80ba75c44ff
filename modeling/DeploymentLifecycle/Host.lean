import DeploymentLifecycle.Effect
import DeploymentLifecycle.IoError
import DeploymentLifecycle.Path
import DeploymentLifecycle.Time.Duration

namespace DeploymentLifecycle.Host

/-! What the machine is asked for on which the program runs: files, programs, the network, time and
the terminal. -/

/-- A program to run: what it reads, and how long it may take. -/
structure Execution where
  command : Path
  arguments : List String
  input : String
  limit : Duration

/-- `silent` is a program that has not ended within its limit, which has then passed. -/
inductive Execution.Outcome where
  | failed (cause : IoError)
  | silent
  | ended (status : Int) (output complaints : List UInt8)

/-- A message to post over HTTP, and how long the answer may take. -/
structure Exchange where
  address : String
  path : String
  authorization : Option String
  body : String
  limit : Duration

/-- `silent` is a peer that has not answered within the limit, which has then passed; `broken` is one
that ended the connection before its answer was complete. -/
inductive Exchange.Outcome where
  | unreachable (cause : IoError)
  | broken (reason : String)
  | silent
  | answered (status : Nat) (body : List UInt8)

inductive Request where
  | currentDirectory
  | variable (name : String)
  | isPresent (path : Path)
  | read (path : Path)
  | write (path : Path) (content : String)
  | makeDirectories (path : Path)
  | rename (source target : Path)
  | run (execution : Execution)
  | exchange (message : Exchange)
  | freshId
  | now
  | sleep (time : Duration)
  | print (line : String)
  | complain (line : String)

@[reducible]
def Answer : Request → Type
  | .currentDirectory => Except IoError Path
  | .variable _ => Option String
  | .isPresent _ => Bool
  | .read _ => Except IoError (List UInt8)
  | .write .. => Except IoError Unit
  | .makeDirectories _ => Except IoError Unit
  | .rename .. => Except IoError Unit
  | .run _ => Execution.Outcome
  | .exchange _ => Exchange.Outcome
  | .freshId => String
  | .now => Duration
  | .sleep _ => Unit
  | .print _ => Unit
  | .complain _ => Unit

def signature : Signature := ⟨Request, Answer⟩

/-- A program on a machine. -/
abbrev Program (α : Type) := Prog signature α

def ask (request : Request) : Program (Answer request) :=
  Prog.request (S := signature) request

end DeploymentLifecycle.Host
