import DeploymentLifecycle.State.Store

namespace DeploymentLifecycle

/-! The state document in memory. -/

/-- The document, if there is one yet, and how many identifiers were given. -/
structure MemoryStore where
  document : Option Document := none
  given : Nat := 0

namespace MemoryStore

/-- Answers a request. `name` tells identifiers apart by their number. No request fails. -/
def answer (name : Nat → String) : (request : Store.Request) → StateM MemoryStore (Store.Answer request)
  | .load => do
    let store ← get
    match store.document with
    | some document => return .ok document
    | none =>
      let document : Document :=
        { directorId := name store.given, installationId := name (store.given + 1) }
      set ({ document := some document, given := store.given + 2 } : MemoryStore)
      return .ok document
  | .read => return .ok (← get).document
  | .save document => do
    modify fun store => { store with document := some document }
    return .ok ()
  | .freshId => do
    let store ← get
    set { store with given := store.given + 1 }
    return name store.given

end MemoryStore

end DeploymentLifecycle
