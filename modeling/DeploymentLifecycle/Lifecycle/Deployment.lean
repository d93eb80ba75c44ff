import DeploymentLifecycle.Lifecycle.Instance
import DeploymentLifecycle.Lifecycle.Release
import DeploymentLifecycle.State.Status

namespace DeploymentLifecycle.Lifecycle

/-! A deployment as a whole: at most one instance, one disk and one stemcell. -/

/-- What was current when the deployment was looked up and has not been deleted since. -/
structure Deployment where
  vmInstance : Option Instance := none
  disk : Option (Record .disk) := none
  stemcell : Option (Record .stemcell) := none

namespace Deployment

def isEmpty (deployment : Deployment) : Bool :=
  deployment.vmInstance.isNone && deployment.disk.isNone && deployment.stemcell.isNone

/-- The deployment that is recorded as current, if anything is. -/
def current? (settings : Settings) : Program (Option Deployment) := do
  let vmInstance ← currentInstance? settings
  let disk ← currentRecord? .disk
  let stemcell ← currentRecord? .stemcell
  let deployment : Deployment := ⟨vmInstance, disk, stemcell⟩
  return if deployment.isEmpty then none else some deployment

/-- Deletes what a handle stands for. What is left is no handle, or the same one if that failed. -/
def consume {α : Type} (handle : Option α) (delete : α → Program Unit) :
    Prog signature (Option α × Except LifecycleError Unit) := do
  match handle with
  | none => return (none, .ok ())
  | some held =>
    match ← (delete held).run with
    | .ok () => return (none, .ok ())
    | .error e => return (some held, .error e)

/-- Deletes the instance, then the disk, then the stemcell. The deployment that is returned holds what
is left; after an error the deletion can be taken up again with it. -/
def delete (deployment : Deployment) (settings : Settings) (skipDrain : Bool) :
    Prog signature (Deployment × Except LifecycleError Unit) := do
  let (vmInstance, result) ← consume deployment.vmInstance (·.delete settings skipDrain)
  match result with
  | .error e => return ({ deployment with vmInstance }, .error e)
  | .ok () =>
    let (disk, result) ← consume deployment.disk releaseCurrent
    match result with
    | .error e => return ({ deployment with vmInstance, disk }, .error e)
    | .ok () =>
      let (stemcell, result) ← consume deployment.stemcell releaseCurrent
      return (⟨vmInstance, disk, stemcell⟩, result)

/-- Stops the jobs of the instance, if there is one. -/
def stop (deployment : Deployment) (settings : Settings) (skipDrain : Bool) : Program Unit :=
  match deployment.vmInstance with
  | some target => target.stop settings skipDrain
  | none => return ()

/-- Starts the jobs of the instance, if there is one, and waits until they run. -/
def start (deployment : Deployment) (settings : Settings) (update : UpdatePolicy) : Program Unit :=
  match deployment.vmInstance with
  | some target => target.start settings update
  | none => return ()

/-- What is recorded, without making a document where there is none. -/
def status : Program (Option Status) := do
  return (← stored Store.read).map Status.ofDocument

end Deployment

end DeploymentLifecycle.Lifecycle
