import DeploymentLifecycle.Proofs.State.Inventory

namespace DeploymentLifecycle

/-! What is left of a document when what is current in it has been deleted, in part or as a
whole. -/

namespace Inventory

variable {kind : Kind} {inventory : Inventory kind} {record : Record kind}

/-- The pointer does not dangle: where it is set, there is a record for it. -/
def Resolves (inventory : Inventory kind) : Prop :=
  ∀ id, inventory.current = some id → inventory.hasId id = true

def withoutCurrent (inventory : Inventory kind) : Inventory kind where
  records := inventory.unused

theorem erase_current (current : inventory.currentRecord? = some record) :
    inventory.erase record.id = inventory.withoutCurrent := by
  have pointer := (currentRecord?_eq_some current).2
  have same : ∀ other : Record kind,
      (other.id != record.id) = (some other.id != some record.id) := by
    intro other
    rw [Bool.eq_iff_iff, bne_iff_ne, bne_iff_ne, ne_eq, ne_eq, Option.some.injEq]
  simp [erase, withoutCurrent, unused, pointer, same]

theorem Resolves.current_eq_none (resolves : inventory.Resolves)
    (absent : inventory.currentRecord? = none) : inventory.current = none := by
  cases pointer : inventory.current with
  | none => rfl
  | some id =>
      obtain ⟨record, member, same⟩ := List.any_eq_true.1 (resolves id pointer)
      rw [currentRecord?, pointer, Option.bind_some] at absent
      exact absurd same (List.find?_eq_none.1 absent record member)

theorem Resolves.withoutCurrent_eq (resolves : inventory.Resolves)
    (absent : inventory.currentRecord? = none) : inventory.withoutCurrent = inventory := by
  have pointer := resolves.current_eq_none absent
  obtain ⟨current, records⟩ := inventory
  obtain rfl : current = none := pointer
  simp [withoutCurrent, unused]

theorem Resolves.mem_withoutCurrent (resolves : inventory.Resolves)
    (ids : (inventory.records.map (·.id)).Nodup) (member : record ∈ inventory.records) :
    record ∈ inventory.withoutCurrent.records ↔ inventory.currentRecord? ≠ some record := by
  rw [withoutCurrent, mem_unused]
  constructor
  · intro unused current
    obtain ⟨_, unnamed⟩ := unused
    exact unnamed (currentRecord?_eq_some current).2
  · intro other
    refine ⟨member, fun named => ?_⟩
    cases found : inventory.currentRecord? with
    | none => cases named.symm.trans (resolves.current_eq_none found)
    | some current =>
        obtain ⟨currentMember, pointer⟩ := currentRecord?_eq_some found
        have same : current.id = record.id := Option.some.inj (pointer.symm.trans named)
        exact other (found.trans (congrArg some (eq_of_id ids currentMember member same)))

end Inventory

namespace Document

variable {document : Document} {gone : List Resource} {kind : Kind}

def currentCid? (document : Document) : (resource : Resource) → Option (Cid resource)
  | .vm => document.currentVm
  | .disk => document.disks.currentRecord?.map (·.cid)
  | .stemcell => document.stemcells.currentRecord?.map (·.cid)

/-- The document after what is current of some resources is gone. -/
def without (document : Document) (gone : List Resource) : Document where
  directorId := document.directorId
  installationId := document.installationId
  currentVm := if .vm ∈ gone then none else document.currentVm
  disks := if .disk ∈ gone then document.disks.withoutCurrent else document.disks
  stemcells := if .stemcell ∈ gone then document.stemcells.withoutCurrent else document.stemcells

def tornDown (document : Document) : Document where
  directorId := document.directorId
  installationId := document.installationId
  disks := document.disks.withoutCurrent
  stemcells := document.stemcells.withoutCurrent

theorem currentCid?_resource :
    document.currentCid? kind.resource = (document.inventory kind).currentRecord?.map (·.cid) := by
  cases kind <;> rfl

theorem inventory_without : (document.without gone).inventory kind =
    if kind.resource ∈ gone then (document.inventory kind).withoutCurrent
    else document.inventory kind := by
  cases kind <;> rfl

theorem currentVm_without :
    (document.without gone).currentVm = if .vm ∈ gone then none else document.currentVm := rfl

theorem currentRecord?_without {record : Record kind}
    (found : ((document.without gone).inventory kind).currentRecord? = some record) :
    (document.inventory kind).currentRecord? = some record ∧ kind.resource ∉ gone := by
  rw [inventory_without] at found
  split at found
  · cases found
  · next left => exact ⟨found, left⟩

theorem without_vm :
    { document.without gone with currentVm := none } = document.without (.vm :: gone) := by
  simp [without]

@[simp]
theorem inventory_tornDown :
    document.tornDown.inventory kind = (document.inventory kind).withoutCurrent := by
  cases kind <;> rfl

theorem without_kind :
    (document.without gone).withInventory (document.inventory kind).withoutCurrent =
      document.without (kind.resource :: gone) := by
  cases kind <;> simp [without, withInventory, inventory, Kind.resource]

/-- When nothing of what was current is left, all of it is gone. -/
theorem without_eq_tornDown (resolves : ∀ kind, (document.inventory kind).Resolves)
    (cleared : ∀ resource, resource ∈ gone ∨ document.currentCid? resource = none) :
    document.without gone = document.tornDown := by
  have vm : (document.without gone).currentVm = document.tornDown.currentVm := by
    rw [currentVm_without]
    rcases cleared .vm with member | absent
    · rw [if_pos member, tornDown]
    · rw [show document.currentVm = none from absent, ite_self, tornDown]
  have inventories : ∀ kind,
      (document.without gone).inventory kind = document.tornDown.inventory kind := by
    intro kind
    rw [inventory_without, inventory_tornDown]
    rcases cleared kind.resource with member | absent
    · rw [if_pos member]
    · rw [currentCid?_resource, Option.map_eq_none_iff] at absent
      rw [(resolves kind).withoutCurrent_eq absent, ite_self]
  exact eq_of_parts rfl rfl vm inventories

end Document

end DeploymentLifecycle
