import DeploymentLifecycle.Cli.Commands
import DeploymentLifecycle.Proofs.Expansion

namespace DeploymentLifecycle.Cli

/-! Commands as one lifecycle operation each. In the JSON mode nothing is printed between the parts
of an operation, and a command is what comes before its operation, the operation, and its success. -/

def Command.IsInit : Command → Prop
  | .init .. => True
  | _ => False

/-- Does something with the current deployment. What it comes to is the message of the success. -/
def onCurrent (settings : Lifecycle.Settings) (verb done : String)
    (operation : Lifecycle.Deployment → Lifecycle.Program Unit) : Lifecycle.Program String := do
  match ← Lifecycle.Deployment.current? settings with
  | none => return "No deployment to " ++ verb
  | some deployment =>
    operation deployment
    return "Deployment " ++ done

/-- The lifecycle operation that a command stands for. -/
def Command.operation? :
    Command → Option (UpdatePolicy → Lifecycle.Settings → Lifecycle.Program String)
  | .delete skipDrain => some fun _ settings => onCurrent settings "delete" "deleted"
    fun deployment => ExceptT.mk do return (← deployment.delete settings skipDrain).2
  | .stop skipDrain => some fun _ settings => onCurrent settings "stop" "stopped"
    fun deployment => deployment.stop settings skipDrain
  | .start => some fun update settings => onCurrent settings "start" "started"
    fun deployment => deployment.start settings update
  | .cleanup => some fun _ _ => do
    Lifecycle.cleanup
    return "Cleanup complete"
  | .init .. | .status => none

/-- What a lifecycle operation needs. -/
structure Ready where
  loaded : LoadedConfig
  started : Duration
  connection : Connection

def Ready.carryOut (ready : Ready) (operation : Lifecycle.Settings → Lifecycle.Program String) :
    Action Unit := do
  let context : Context := ⟨ready.loaded, .json⟩
  let message ← context.operate ready.connection (operation ready.connection.settings).run
  context.succeed ready.started message

namespace Invocation

/-- Loads the configuration that is named, or the one of the current directory. -/
def findIn (invocation : Invocation) (current : Path) : Action LoadedConfig :=
  ExceptT.mk do
    let result ← match invocation.config with
      | some path => Config.load path
      | none => Config.discover current
    return result.mapError CommandError.config

def find (invocation : Invocation) : Action LoadedConfig := do
  let current ← ExceptT.mk do
    return (← Host.ask .currentDirectory).mapError fun cause => CommandError.config (.io cause)
  invocation.findIn current

def ready (invocation : Invocation) : Action Ready := do
  let loaded ← invocation.find
  let started ← ask .now
  let connection ← (⟨loaded, invocation.output⟩ : Context).connect
  return ⟨loaded, started, connection⟩

end Invocation

namespace Context

def obey (context : Context) : Command → Action Unit
  | .delete skipDrain => context.delete skipDrain
  | .stop skipDrain => context.stop skipDrain
  | .start => context.start
  | .cleanup => context.cleanup
  | .status => context.status
  | .init .. => pure ()

/-- An operation, with what is done before it and after it if nothing but its stages is shown. -/
def conduct (context : Context) (operation : Lifecycle.Settings → Lifecycle.Program String) :
    Action Unit := do
  let started ← ask .now
  let connection ← context.connect
  let message ← context.operate connection (operation connection.settings).run
  context.succeed started message

variable {context : Context} {connection : Connection} {α β : Type}

theorem operate_bind {program : Lifecycle.Program α} {next : α → Lifecycle.Program β} :
    context.operate connection (program >>= next).run =
      context.operate connection program.run >>= fun value =>
        context.operate connection (next value).run :=
  Prog.interpret_exceptBind (S := Lifecycle.signature)

theorem operate_pure {value : α} :
    context.operate connection (pure value : Lifecycle.Program α).run = pure value := rfl

theorem progress_untold {mode : OutputMode} {message : String} (json : mode = .json) :
    printLines (mode.progress message) = pure () := by
  subst json
  rfl

theorem withDeployment_eq_conduct {verb doing done : String}
    {operation : Lifecycle.Settings → Lifecycle.Deployment →
      Prog Lifecycle.signature (Except LifecycleError Unit)} (json : context.mode = .json) :
    context.withDeployment verb doing done operation =
      context.conduct fun settings => onCurrent settings verb done (operation settings) := by
  simp only [withDeployment, conduct, onCurrent, operate_bind, bind_assoc]
  refine bind_congr fun started => bind_congr fun connection => bind_congr fun found => ?_
  cases found with
  | none => simp only [operate_pure, pure_bind]
  | some deployment =>
      simp only [progress_untold json, operate_bind, operate_pure, bind_assoc, pure_bind]
      rfl

theorem cleanup_eq_conduct (json : context.mode = .json) : context.cleanup =
    context.conduct fun _ => do
      Lifecycle.cleanup
      return "Cleanup complete" := by
  simp only [cleanup, conduct, progress_untold json, operate_bind, operate_pure, bind_assoc,
    pure_bind]

theorem obey_eq_conduct {command : Command} (json : context.mode = .json)
    {operation : UpdatePolicy → Lifecycle.Settings → Lifecycle.Program String}
    (named : command.operation? = some operation) :
    context.obey command = context.conduct (operation context.loaded.config.update) := by
  cases command with
  | init | status => cases named
  | delete skipDrain =>
      obtain rfl := Option.some.inj named
      simp only [obey, delete]
      exact withDeployment_eq_conduct json
  | stop skipDrain =>
      obtain rfl := Option.some.inj named
      simp only [obey, stop]
      exact withDeployment_eq_conduct json
  | start =>
      obtain rfl := Option.some.inj named
      simp only [obey, start]
      exact withDeployment_eq_conduct json
  | cleanup =>
      obtain rfl := Option.some.inj named
      exact cleanup_eq_conduct json

end Context

namespace Invocation

variable {invocation : Invocation}

theorem load_eq_findIn {current : Path} : Context.load invocation current =
    invocation.findIn current >>= fun loaded => pure ⟨loaded, invocation.output⟩ := rfl

theorem act_eq_obey (deploys : ¬ invocation.command.IsInit) :
    invocation.act = invocation.find >>= fun loaded =>
      (⟨loaded, invocation.output⟩ : Context).obey invocation.command := by
  unfold act find
  cases command : invocation.command with
  | init deployment cpi force =>
      rw [command] at deploys
      exact absurd trivial deploys
  | _ => simp only [load_eq_findIn, Context.obey, bind_assoc, pure_bind]

theorem act_eq_ready {operation : UpdatePolicy → Lifecycle.Settings → Lifecycle.Program String}
    (json : invocation.output = .json) (named : invocation.command.operation? = some operation) :
    invocation.act = invocation.ready >>= fun ready =>
      ready.carryOut (operation ready.loaded.config.update) := by
  have deploys : ¬ invocation.command.IsInit := fun isInit => by
    cases command : invocation.command <;> simp_all [Command.operation?, Command.IsInit]
  rw [act_eq_obey deploys, json]
  simp only [ready, bind_assoc, pure_bind]
  exact bind_congr fun loaded => Context.obey_eq_conduct rfl named

end Invocation

end DeploymentLifecycle.Cli
