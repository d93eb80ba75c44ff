import DeploymentLifecycle.State.Document
import Mathlib.Data.List.Nodup

namespace DeploymentLifecycle

/-! Records that can be told apart, and what becomes of them when one is dropped or added. -/

namespace Document

variable {document : Document} {kind other : Kind} {inventory : Inventory kind}

@[simp]
theorem inventory_withInventory :
    (document.withInventory inventory).inventory kind = inventory := by
  cases kind <;> rfl

theorem inventory_withInventory_of_ne (different : other ≠ kind) :
    (document.withInventory inventory).inventory other = document.inventory other := by
  cases kind <;> cases other <;> first | rfl | exact absurd rfl different

@[simp]
theorem withInventory_inventory : document.withInventory (document.inventory kind) = document := by
  cases kind <;> rfl

@[simp]
theorem withInventory_withInventory {other : Inventory kind} :
    (document.withInventory other).withInventory inventory = document.withInventory inventory := by
  cases kind <;> rfl

@[simp]
theorem currentVm_withInventory :
    (document.withInventory inventory).currentVm = document.currentVm := by
  cases kind <;> rfl

@[simp]
theorem inventory_withCurrentVm {vm : Option (Cid .vm)} :
    ({ document with currentVm := vm } : Document).inventory kind = document.inventory kind := by
  cases kind <;> rfl

theorem eq_of_parts {same : Document} (director : document.directorId = same.directorId)
    (installation : document.installationId = same.installationId)
    (vm : document.currentVm = same.currentVm)
    (inventories : ∀ kind, document.inventory kind = same.inventory kind) : document = same := by
  have disks : document.disks = same.disks := inventories .disk
  have stemcells : document.stemcells = same.stemcells := inventories .stemcell
  cases document
  cases same
  simp_all only

end Document

namespace Inventory

variable {kind : Kind} {inventory : Inventory kind} {record : Record kind} {id : RecordId kind}

/-- No two records have the same id, and no two the same CID. -/
structure Distinct (inventory : Inventory kind) : Prop where
  ids : (inventory.records.map (·.id)).Nodup
  cids : (inventory.records.map (·.cid)).Nodup

theorem distinct_empty : ({} : Inventory kind).Distinct := ⟨List.nodup_nil, List.nodup_nil⟩

theorem eq_of_id {other : Record kind} (ids : (inventory.records.map (·.id)).Nodup)
    (member : record ∈ inventory.records) (otherMember : other ∈ inventory.records)
    (same : record.id = other.id) : record = other :=
  List.inj_on_of_nodup_map ids member otherMember same

theorem currentRecord?_eq_some (current : inventory.currentRecord? = some record) :
    record ∈ inventory.records ∧ inventory.current = some record.id := by
  obtain ⟨named, pointer, found⟩ := Option.bind_eq_some_iff.1 current
  have same : record.id = named := by simpa using List.find?_some found
  exact ⟨List.mem_of_find?_eq_some found, by rw [pointer, same]⟩

theorem mem_unused : record ∈ inventory.unused ↔
    record ∈ inventory.records ∧ inventory.current ≠ some record.id := by
  simp only [unused, List.mem_filter, bne_iff_ne]
  exact and_congr_right fun _ => ne_comm

@[simp]
theorem mem_erase_records :
    record ∈ (inventory.erase id).records ↔ record ∈ inventory.records ∧ record.id ≠ id := by
  simp [erase]

theorem erase_records_sublist : List.Sublist (inventory.erase id).records inventory.records :=
  List.filter_sublist

theorem erase_of_unnamed (unnamed : inventory.current ≠ some id) : inventory.erase id =
    { inventory with records := inventory.records.filter fun record => record.id != id } := by
  rw [erase, if_neg unnamed]

theorem hasId_eq_false :
    inventory.hasId id = false ↔ ∀ record ∈ inventory.records, record.id ≠ id := by
  simp [hasId]

theorem hasCid_eq_false {cid : Cid kind.resource} :
    inventory.hasCid cid = false ↔ ∀ record ∈ inventory.records, record.cid ≠ cid := by
  simp [hasCid]

theorem mem_unused_erase (unused : record ∈ inventory.unused) (different : record.id ≠ id) :
    record ∈ (inventory.erase id).unused := by
  obtain ⟨member, unnamed⟩ := mem_unused.1 unused
  have kept : record ∈ (inventory.erase id).records := mem_erase_records.2 ⟨member, different⟩
  have stillUnnamed : (inventory.erase id).current ≠ some record.id := by
    rw [erase]
    split
    · nofun
    · exact unnamed
  exact mem_unused.2 ⟨kept, stillUnnamed⟩

theorem erase_of_not_mentions (absent : inventory.mentions id = false) :
    inventory.erase id = inventory := by
  simp only [mentions, Bool.or_eq_false_iff, hasId_eq_false, beq_eq_false_iff_ne] at absent
  obtain ⟨unrecorded, unnamed⟩ := absent
  have kept : inventory.records.filter (fun record => record.id != id) = inventory.records :=
    List.filter_eq_self.2 fun record member => by simpa using unrecorded record member
  rw [erase_of_unnamed unnamed, kept]

theorem Distinct.erase (distinct : inventory.Distinct) : (inventory.erase id).Distinct :=
  ⟨distinct.ids.sublist (erase_records_sublist.map _),
    distinct.cids.sublist (erase_records_sublist.map _)⟩

theorem Distinct.insert (distinct : inventory.Distinct) (newId : inventory.hasId record.id = false)
    (newCid : inventory.hasCid record.cid = false) : (inventory.insert record).Distinct := by
  rw [hasId_eq_false] at newId
  rw [hasCid_eq_false] at newCid
  constructor
  · simpa [Inventory.insert, List.nodup_append, distinct.ids] using newId
  · simpa [Inventory.insert, List.nodup_append, distinct.cids] using newCid

end Inventory

def Document.Distinct (document : Document) : Prop :=
  ∀ kind, (document.inventory kind).Distinct

namespace Document

variable {document : Document} {kind : Kind} {inventory : Inventory kind}

theorem distinct_blank {directorId installationId : String} :
    ({ directorId, installationId } : Document).Distinct := by
  intro kind
  cases kind <;> exact Inventory.distinct_empty

theorem Distinct.withInventory (distinct : document.Distinct) (changed : inventory.Distinct) :
    (document.withInventory inventory).Distinct := by
  intro other
  by_cases same : other = kind
  · subst other
    simpa using changed
  · rw [inventory_withInventory_of_ne same]
    exact distinct other

theorem Distinct.withCurrentVm {vm : Option (Cid .vm)} (distinct : document.Distinct) :
    ({ document with currentVm := vm } : Document).Distinct := by
  intro kind
  simpa using distinct kind

end Document

end DeploymentLifecycle
