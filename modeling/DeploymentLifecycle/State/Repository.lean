import DeploymentLifecycle.State.Store

namespace DeploymentLifecycle

/-! The operations on the stored document. Each loads it, and saves it again if it changed; nothing is
held from one operation to the next. -/

namespace CurrentVm

open Store (Program load save)

def find? : Program (Option (Cid .vm)) := do
  return (← load).currentVm

def set (cid : Cid .vm) : Program Unit := do
  save { (← load) with currentVm := some cid }

def clear : Program Unit := do
  let document ← load
  if document.currentVm.isSome then save { document with currentVm := none }

end CurrentVm

namespace Records

open Store (Program load save freshId)

/-- The current record, if the pointer is set and its record exists. -/
def current? (kind : Kind) : Program (Option (Record kind)) := do
  return ((← load).inventory kind).currentRecord?

/-- Points to a record that exists. -/
def setCurrent {kind : Kind} (id : RecordId kind) : Program Unit := do
  let document ← load
  let inventory := document.inventory kind
  if inventory.hasId id then
    save (document.withInventory { inventory with current := some id })
  else throw (.recordNotFound kind id.text)

def clearCurrent (kind : Kind) : Program Unit := do
  let document ← load
  let inventory := document.inventory kind
  if inventory.current.isSome then
    save (document.withInventory { inventory with current := none })

def find? {kind : Kind} (cid : Cid kind.resource) : Program (Option (Record kind)) := do
  return ((← load).inventory kind).find? cid

def all (kind : Kind) : Program (List (Record kind)) := do
  return ((← load).inventory kind).records

def unused (kind : Kind) : Program (List (Record kind)) := do
  return ((← load).inventory kind).unused

/-- Drops a record. One that is gone already is no error. -/
def delete {kind : Kind} (id : RecordId kind) : Program Unit := do
  let document ← load
  let inventory := document.inventory kind
  if inventory.mentions id then save (document.withInventory (inventory.erase id))

/-- Adds a record under an identifier of its own. No two records of a kind have the same CID. -/
def insert {kind : Kind} (cid : Cid kind.resource) (details : kind.Details) :
    Program (Record kind) := do
  let record : Record kind := ⟨⟨← freshId⟩, cid, details⟩
  let document ← load
  let inventory := document.inventory kind
  if inventory.hasCid cid then throw (.duplicateCid kind cid.text)
  save (document.withInventory (inventory.insert record))
  return record

end Records

end DeploymentLifecycle
