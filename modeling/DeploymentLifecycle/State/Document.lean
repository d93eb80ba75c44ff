import DeploymentLifecycle.Json.Value
import DeploymentLifecycle.Resource

namespace DeploymentLifecycle

/-! What is recorded of a deployment: the current VM, and for disks and stemcells a list of records
with a pointer to the current one. -/

/-- `size` is in MiB. -/
structure DiskDetails where
  size : UInt64 := 0
  cloudProperties : Json.Fields := []
deriving Repr, Inhabited

structure StemcellDetails where
  name : String := ""
  version : String := ""
  apiVersion : UInt32 := 0
deriving Repr, Inhabited, DecidableEq

@[reducible]
def Kind.Details : Kind → Type
  | .disk => DiskDetails
  | .stemcell => StemcellDetails

structure Record (kind : Kind) where
  id : RecordId kind
  cid : Cid kind.resource
  details : kind.Details

/-- The records of one kind, oldest first, and the id of the current one. A pointer may dangle: then
no record is current. -/
structure Inventory (kind : Kind) where
  current : Option (RecordId kind) := none
  records : List (Record kind) := []

namespace Inventory

variable {kind : Kind}

instance : Inhabited (Inventory kind) := ⟨{}⟩

def currentRecord? (inventory : Inventory kind) : Option (Record kind) :=
  inventory.current.bind fun id => inventory.records.find? fun record => record.id == id

/-- The records that the pointer does not name. -/
def unused (inventory : Inventory kind) : List (Record kind) :=
  inventory.records.filter fun record => some record.id != inventory.current

def find? (inventory : Inventory kind) (cid : Cid kind.resource) : Option (Record kind) :=
  inventory.records.find? fun record => record.cid == cid

def hasId (inventory : Inventory kind) (id : RecordId kind) : Bool :=
  inventory.records.any fun record => record.id == id

def hasCid (inventory : Inventory kind) (cid : Cid kind.resource) : Bool :=
  inventory.records.any fun record => record.cid == cid

/-- Whether a record or the pointer has the id. -/
def mentions (inventory : Inventory kind) (id : RecordId kind) : Bool :=
  inventory.hasId id || inventory.current == some id

def insert (inventory : Inventory kind) (record : Record kind) : Inventory kind :=
  { inventory with records := inventory.records ++ [record] }

/-- Drops all records with the id, and the pointer if it names them. -/
def erase (inventory : Inventory kind) (id : RecordId kind) : Inventory kind :=
  { current := if inventory.current = some id then none else inventory.current
    records := inventory.records.filter fun record => record.id != id }

end Inventory

/-- The document that is stored for a deployment. -/
structure Document where
  directorId : String := ""
  installationId : String := ""
  currentVm : Option (Cid .vm) := none
  disks : Inventory .disk := {}
  stemcells : Inventory .stemcell := {}

namespace Document

instance : Inhabited Document := ⟨{}⟩

def inventory (document : Document) : (kind : Kind) → Inventory kind
  | .disk => document.disks
  | .stemcell => document.stemcells

def withInventory (document : Document) : {kind : Kind} → Inventory kind → Document
  | .disk, inventory => { document with disks := inventory }
  | .stemcell, inventory => { document with stemcells := inventory }

/-- Whether nothing is current and no record is left. -/
def isEmpty (document : Document) : Bool :=
  document.currentVm.isNone && document.disks.current.isNone && document.stemcells.current.isNone
    && document.disks.records.isEmpty && document.stemcells.records.isEmpty

end Document

end DeploymentLifecycle
