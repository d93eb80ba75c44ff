import DeploymentLifecycle.Cli.Commands
import DeploymentLifecycle.Environment
import DeploymentLifecycle.Text.Hex

namespace DeploymentLifecycle.Terminal

/-! The command line on the machine at hand. Programs cannot be run there, and there is no network;
all else that the commands ask for is done. -/

def errorNumber : IO.Error → Option UInt32
  | .alreadyExists _ number _ => some number
  | .otherError number _ => some number
  | .resourceBusy number _ => some number
  | .resourceVanished number _ => some number
  | .unsupportedOperation number _ => some number
  | .hardwareFault number _ => some number
  | .unsatisfiedConstraints number _ => some number
  | .illegalOperation number _ => some number
  | .protocolError number _ => some number
  | .timeExpired number _ => some number
  | .interrupted _ number _ => some number
  | .noFileOrDirectory _ number _ => some number
  | .invalidArgument _ number _ => some number
  | .permissionDenied _ number _ => some number
  | .resourceExhausted _ number _ => some number
  | .inappropriateType _ number _ => some number
  | .noSuchThing _ number _ => some number
  | .unexpectedEof => none
  | .userError _ => none

/-- The cause of a failure; some failures are numbered below zero. -/
def cause (e : IO.Error) : IoError :=
  match errorNumber e with
  | some number => .os (min number (0 - number)).toNat
  | none => .inputOutput

def attempt (action : IO α) : IO (Except IoError α) := do
  try
    return .ok (← action)
  catch e => return .error (cause e)

/-- What is there can be opened, or may not be. -/
def isPresent (path : Path) : IO Bool := do
  match ← attempt (IO.FS.Handle.mk path.text .read) with
  | .ok _ => return true
  | .error cause => return cause = .permissionDenied

def answer : (request : Host.Request) → IO (Host.Answer request)
  | .currentDirectory => attempt do return ⟨(← IO.currentDir).toString⟩
  | .variable name => if Environment.isName name then IO.getEnv name else return none
  | .isPresent path => isPresent path
  | .read path => attempt do return (← IO.FS.readBinFile path.text).toList
  | .write path content => attempt (IO.FS.writeFile path.text content)
  | .makeDirectories path => attempt (IO.FS.createDirAll path.text)
  | .rename source target => attempt (IO.FS.rename source.text target.text)
  | .run _ => return .failed .notSupported
  | .exchange _ => return .unreachable .networkUnreachable
  | .freshId => do return Text.uuid (← IO.getRandomBytes 16).toList
  | .now => do return ⟨← IO.monoNanosNow⟩
  | .sleep time => IO.sleep (time.millis + 1).toUInt32
  | .print line => IO.println line
  | .complain line => IO.eprintln line

end DeploymentLifecycle.Terminal

def main (arguments : List String) : IO UInt32 := do
  let status ← (DeploymentLifecycle.Cli.run arguments).run DeploymentLifecycle.Terminal.answer
  return status.toUInt32
