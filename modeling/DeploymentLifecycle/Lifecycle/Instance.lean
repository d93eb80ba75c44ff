import DeploymentLifecycle.Lifecycle.Stage
import DeploymentLifecycle.Lifecycle.Wait
import DeploymentLifecycle.State.Repository

namespace DeploymentLifecycle.Lifecycle

/-! Stopping, starting and deleting the instance of a deployment. Whatever happens inside the VM is
left out when its agent does not answer. -/

/-- A recorded VM, under the name that the labels of its stages show. -/
structure Instance where
  name : InstanceName
  vm : Cid .vm
deriving DecidableEq, Repr

/-- What the operations on an instance need to know. -/
structure Settings where
  instanceName : InstanceName := {}
  ping : PingPolicy := .standard
deriving DecidableEq, Repr

/-- The reason given to jobs for draining them. -/
def drainReason : String := "shutdown"

/-- The instance of the current VM, if there is one. -/
def currentInstance? (settings : Settings) : Program (Option Instance) := do
  return (← stored CurrentVm.find?).map fun vm => ⟨settings.instanceName, vm⟩

namespace Instance

/-- `text` with the instance's name behind it in quotes. -/
def labelled (target : Instance) (text : String) : String :=
  text ++ " '" ++ target.name.label ++ "'"

/-- Waits for the agent, and says whether it answered. -/
def awaitAgent (target : Instance) (ping : PingPolicy) : Program Bool :=
  ExceptT.mk do
    let label := "Waiting for the agent on VM '" ++ target.vm.text ++ "'"
    ask (.stageBegun label)
    let started ← ask .now
    let reachable ← isReachable ping
    let elapsed := (← ask .now) - started
    let outcome : Outcome :=
      if reachable then .done else .skipped ("agent unreachable after " ++ ping.timeout.short)
    ask (.stageEnded label outcome elapsed)
    return .ok reachable

def runScript (target : Instance) (name : String) : Program Unit :=
  agentStage (target.labelled ("Running the " ++ name ++ " scripts")) (ask (.runScript name []))

def stopJobs (target : Instance) (skipDrain : Bool) : Program Unit := do
  target.runScript "pre-stop"
  if !skipDrain then
    agentStage (target.labelled "Draining jobs on instance") (ask (.drain drainReason))
  agentStage (target.labelled "Stopping jobs on instance") (ask .stop)
  target.runScript "post-stop"

def unmountDisk (cid : Cid .disk) : Program Unit :=
  agentStage ("Unmounting disk '" ++ cid.text ++ "'") (ask (.unmountDisk cid))

def unmountDisks : Program Unit := do
  (← agentCall (ask .listDisk)).forM unmountDisk

/-- Deletes the VM, and then no VM is current. -/
def deleteVm (target : Instance) : Program Unit :=
  perform ("Deleting VM '" ++ target.vm.text ++ "'") do
    let deletion ← cloudCall (ask (.delete .vm target.vm))
    stored CurrentVm.clear
    match deletion with
    | .deleted => return .done
    | .notFound => return .skipped ("VM '" ++ target.vm.text ++ "' not found")

def stop (target : Instance) (settings : Settings) (skipDrain : Bool) : Program Unit := do
  if ← target.awaitAgent settings.ping then target.stopJobs skipDrain

def start (target : Instance) (settings : Settings) (update : UpdatePolicy) : Program Unit := do
  if ← target.awaitAgent settings.ping then
    target.runScript "pre-start"
    agentStage (target.labelled "Starting the agent") (ask .start)
    perform ("Waiting for instance '" ++ target.name.label ++ "' to be running") do
      untilRunning update target.name
      return .done
    target.runScript "post-start"

/-- Stops the jobs, unmounts the disks and deletes the VM. A VM that the provider does not know any
more is deleted without a word to its agent. -/
def delete (target : Instance) (settings : Settings) (skipDrain : Bool) : Program Unit := do
  if ← cloudCall (ask (.hasVm target.vm)) then
    if ← target.awaitAgent settings.ping then
      target.stopJobs skipDrain
      unmountDisks
  target.deleteVm

end Instance

end DeploymentLifecycle.Lifecycle
