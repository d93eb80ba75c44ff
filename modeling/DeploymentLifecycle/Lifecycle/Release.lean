import DeploymentLifecycle.Lifecycle.Stage
import DeploymentLifecycle.State.Repository

namespace DeploymentLifecycle.Lifecycle

/-! Releasing disks and stemcells. A record is dropped only after the provider agreed that the resource
is gone. -/

/-- Deletes what a record stands for, and then the record. -/
def release {kind : Kind} (label : String) (record : Record kind) : Program Unit :=
  perform label do
    let deletion ← cloudCall (ask (.delete kind.resource record.cid))
    stored (Records.delete record.id)
    match deletion with
    | .deleted => return .done
    | .notFound => return .skipped (kind.name ++ " '" ++ record.cid.text ++ "' not found")

def currentRecord? (kind : Kind) : Program (Option (Record kind)) :=
  stored (Records.current? kind)

/-- Releases a record if it is still the current one. The stored document is looked at again, since
it may have changed in the meantime. -/
def releaseCurrent {kind : Kind} (record : Record kind) : Program Unit := do
  match ← currentRecord? kind with
  | some current =>
    if current.id = record.id then
      release ("Deleting " ++ kind.name ++ " '" ++ current.cid.text ++ "'") current
  | none => return ()

/-- Releases every record that is not the current one. -/
def releaseUnused (kind : Kind) : Program Unit := do
  (← stored (Records.unused kind)).forM fun record =>
    release ("Deleting unused " ++ kind.name ++ " '" ++ record.cid.text ++ "'") record

/-- Releases the unused disks and then the unused stemcells. -/
def cleanup : Program Unit := do
  releaseUnused .disk
  releaseUnused .stemcell

end DeploymentLifecycle.Lifecycle
