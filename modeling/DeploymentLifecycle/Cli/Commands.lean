import DeploymentLifecycle.Cli.Output
import DeploymentLifecycle.Config.Init
import DeploymentLifecycle.Connect
import DeploymentLifecycle.Lifecycle.Deployment

namespace DeploymentLifecycle.Cli

/-! The commands. -/

/-- What ends a command. -/
inductive CommandError where
  | config (error : ConfigError)
  | connect (error : ConnectError)
  | lifecycle (error : LifecycleError)
deriving DecidableEq, Repr

def CommandError.message : CommandError → String
  | .config error => error.message
  | .connect error => error.message
  | .lifecycle error => error.message

/-- A command on a machine that may end in an error. -/
abbrev Action (α : Type) := ExceptT CommandError (Prog Host.signature) α

def ask (request : Host.Request) : Action (Host.Answer request) :=
  ExceptT.lift (Host.ask request)

def printLines (lines : List String) : Action Unit :=
  ExceptT.lift (printAll lines)

/-- What every command but `init` is given. -/
structure Context where
  loaded : LoadedConfig
  mode : OutputMode

namespace Context

/-- Loads the configuration that is named, or the one of the current directory. -/
def load (invocation : Invocation) (current : Path) : Action Context := do
  let loaded ← ExceptT.mk do
    let result ← match invocation.config with
      | some path => Config.load path
      | none => Config.discover current
    return result.mapError CommandError.config
  return ⟨loaded, invocation.output⟩

def connect (context : Context) : Action Connection :=
  ExceptT.mk do return (← context.loaded.connect).mapError .connect

/-- Runs a lifecycle operation, its stages printed. -/
def operate {α : Type} (context : Context) (connection : Connection)
    (operation : Prog Lifecycle.signature (Except LifecycleError α)) : Action α :=
  ExceptT.mk do
    let result ← operation.interpret (T := Host.signature)
      (connection.answer (report context.mode))
    return result.mapError .lifecycle

def succeed (context : Context) (started : Duration) (message : String) : Action Unit := do
  let elapsed := (← ask .now) - started
  printLines (context.mode.success message (some elapsed))

/-- Does something with the current deployment. `verb` names what is done in the messages. -/
def withDeployment (context : Context) (verb doing done : String)
    (operation : Lifecycle.Settings → Lifecycle.Deployment →
      Prog Lifecycle.signature (Except LifecycleError Unit)) : Action Unit := do
  let started ← ask .now
  let connection ← context.connect
  match ← context.operate connection (Lifecycle.Deployment.current? connection.settings).run with
  | none => context.succeed started ("No deployment to " ++ verb)
  | some deployment =>
    printLines <| context.mode.progress <|
      doing ++ " deployment '" ++ context.loaded.config.deployment ++ "'"
    context.operate connection (operation connection.settings deployment)
    context.succeed started ("Deployment " ++ done)

def delete (context : Context) (skipDrain : Bool) : Action Unit :=
  context.withDeployment "delete" "Deleting" "deleted" fun settings deployment => do
    return (← deployment.delete settings skipDrain).2

def stop (context : Context) (skipDrain : Bool) : Action Unit :=
  context.withDeployment "stop" "Stopping" "stopped" fun settings deployment =>
    (deployment.stop settings skipDrain).run

def start (context : Context) : Action Unit :=
  context.withDeployment "start" "Starting" "started" fun settings deployment =>
    (deployment.start settings context.loaded.config.update).run

def cleanup (context : Context) : Action Unit := do
  let started ← ask .now
  printLines (context.mode.progress "Deleting unused disks and stemcells")
  let connection ← context.connect
  context.operate connection Lifecycle.cleanup.run
  context.succeed started "Cleanup complete"

/-- What is recorded, line by line. -/
def statusLines (deployment : String) : Option Status → List String
  | none => ["Deployment: " ++ deployment, "State: none recorded"]
  | some status =>
    let disk := match status.disk with
      | some record =>
        record.cid.text ++ " (" ++ toString record.details.size.toNat ++ " MiB)"
      | none => "none"
    let stemcell := match status.stemcell with
      | some record =>
        record.cid.text ++ " (" ++ record.details.name ++ "/" ++ record.details.version ++ ")"
      | none => "none"
    ["Deployment: " ++ deployment,
      "Director ID: " ++ status.directorId,
      "Installation ID: " ++ status.installationId,
      "VM: " ++ (status.vm.map (·.text)).getD "none",
      "Disk: " ++ disk,
      "Stemcell: " ++ stemcell,
      "Unused: " ++ toString status.unusedDisks ++ " disk(s), " ++ toString status.unusedStemcells
        ++ " stemcell(s)"]

/-- Needs neither provider nor agent. -/
def status (context : Context) : Action Unit := do
  let status ← ExceptT.mk do
    let result ← (context.loaded.store).read
    return (result.map (·.map Status.ofDocument)).mapError fun e => .lifecycle (.state e)
  let value := (status.map Status.toJson).getD .null
  printLines (context.mode.summary value (statusLines context.loaded.config.deployment status))

end Context

/-- Does what an invocation names. -/
def Invocation.act (invocation : Invocation) : Action Unit := do
  let current ← ExceptT.mk do
    return (← Host.ask .currentDirectory).mapError fun cause => CommandError.config (.io cause)
  match invocation.command with
  | .init deployment cpi force =>
    ExceptT.mk do return (← Config.init current deployment cpi force).mapError .config
    printLines (invocation.output.success ("Created " ++ Config.fileName.text) none)
  | .delete skipDrain => (← Context.load invocation current).delete skipDrain
  | .stop skipDrain => (← Context.load invocation current).stop skipDrain
  | .start => (← Context.load invocation current).start
  | .cleanup => (← Context.load invocation current).cleanup
  | .status => (← Context.load invocation current).status

def version : String := "bosun 0.1.0"

def usage : String :=
  "Usage: bosun [-c PATH] [-v] [--output normal|quiet|json] COMMAND\n"
    ++ "Commands: init [-d NAME] [--cpi PATH] [-f], delete [--skip-drain], stop [--skip-drain], "
    ++ "start, cleanup, status"

/-- Runs a command line. The result is the exit status: 1 after an error, 2 for a command line that
cannot be read. -/
def run (arguments : List String) : Host.Program Nat := do
  match Invocation.ofArguments arguments with
  | .error .version => do
    Host.ask (.print version)
    return 0
  | .error .help => do
    Host.ask (.print usage)
    return 0
  | .error .misuse => do
    Host.ask (.complain usage)
    return 2
  | .ok invocation =>
    match ← invocation.act.run with
    | .ok () => return 0
    | .error e => do
      Host.ask (.complain (invocation.output.failure e.message))
      return 1

end DeploymentLifecycle.Cli
