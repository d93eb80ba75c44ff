import DeploymentLifecycle.Proofs.State.Sound
import Mathlib.Data.List.Induction

namespace DeploymentLifecycle

/-! What is left of a document of which some unused records have been dropped. -/

/-- A record of either kind. -/
structure Entry where
  kind : Kind
  record : Record kind

namespace Inventory

variable {kind : Kind} {inventory : Inventory kind} {id : RecordId kind}

def unusedEntries (inventory : Inventory kind) : List Entry :=
  inventory.unused.map (Entry.mk kind)

theorem mem_unusedEntries {record : Record kind} :
    ⟨kind, record⟩ ∈ inventory.unusedEntries ↔ record ∈ inventory.unused :=
  List.mem_map_of_injective fun _ _ same => eq_of_heq (Entry.mk.inj same).2

theorem currentRecord?_erase (unnamed : inventory.current ≠ some id) :
    (inventory.erase id).currentRecord? = inventory.currentRecord? := by
  rw [erase_of_unnamed unnamed]
  cases pointer : inventory.current with
  | none => simp [currentRecord?, pointer]
  | some named =>
      have different : named ≠ id := fun same => unnamed (pointer.trans (congrArg some same))
      simp only [currentRecord?, pointer, Option.bind_some, List.find?_filter]
      congr 1
      funext record
      rw [Bool.eq_iff_iff]
      simp only [bne_iff_ne, beq_iff_eq, decide_eq_true_eq, and_iff_right_iff_imp]
      exact fun same other => different (same.symm.trans other)

end Inventory

namespace Document

variable {document left : Document} {kind : Kind} {entry : Entry} {gone rest : List Entry}

/-- The unused disks and then the unused stemcells, in the order of the document. -/
def unusedEntries (document : Document) : List Entry :=
  (document.inventory .disk).unusedEntries ++ (document.inventory .stemcell).unusedEntries

theorem mem_unusedEntries {record : Record kind} :
    ⟨kind, record⟩ ∈ document.unusedEntries ↔ record ∈ (document.inventory kind).unused := by
  have apart : ∀ (other : Kind) (inventory : Inventory other), other ≠ kind →
      ⟨kind, record⟩ ∉ inventory.unusedEntries := by
    intro other inventory different member
    obtain ⟨_, _, same⟩ := List.mem_map.1 member
    exact different (Entry.mk.inj same).1
  rw [unusedEntries, List.mem_append]
  cases kind with
  | disk => rw [or_iff_left (apart .stemcell _ nofun), Inventory.mem_unusedEntries]
  | stemcell => rw [or_iff_right (apart .disk _ nofun), Inventory.mem_unusedEntries]

def drop (document : Document) (entry : Entry) : Document :=
  document.withInventory ((document.inventory entry.kind).erase entry.record.id)

def dropAll (document : Document) (gone : List Entry) : Document :=
  gone.foldl drop document

@[simp]
theorem dropAll_nil : document.dropAll [] = document := rfl

@[simp]
theorem dropAll_cons : document.dropAll (entry :: gone) = (document.drop entry).dropAll gone := rfl

theorem dropAll_append : document.dropAll (gone ++ rest) = (document.dropAll gone).dropAll rest :=
  List.foldl_append

/-- Entries of the other kind take nothing away. -/
theorem inventory_dropAll (others : ∀ entry ∈ gone, entry.kind ≠ kind) :
    (document.dropAll gone).inventory kind = document.inventory kind := by
  induction gone generalizing document with
  | nil => rfl
  | cons entry gone ih =>
      obtain ⟨other, others⟩ := List.forall_mem_cons.1 others
      rw [dropAll_cons, ih others, drop, inventory_withInventory_of_ne other.symm]

/-- What is left is the document without some records, and nothing else has changed in it. -/
structure Dropped (document : Document) (gone : List Entry) (left : Document) : Prop where
  identity : left.SameIdentity document
  vm : left.currentVm = document.currentVm
  pointer : ∀ kind, (left.inventory kind).current = (document.inventory kind).current
  currentRecord : ∀ kind,
    (left.inventory kind).currentRecord? = (document.inventory kind).currentRecord?
  order : ∀ kind, (left.inventory kind).records.Sublist (document.inventory kind).records
  records : ∀ kind record, record ∈ (left.inventory kind).records ↔
    record ∈ (document.inventory kind).records ∧ ⟨kind, record⟩ ∉ gone

theorem dropped_nil : document.Dropped [] document where
  identity := ⟨rfl, rfl⟩
  vm := rfl
  pointer _ := rfl
  currentRecord _ := rfl
  order _ := .refl _
  records _ _ := by simp

/-- A document has one record of an id, so that it is the entry alone that its id erases. -/
theorem Dropped.mem_drop {kind : Kind} {held : Record kind}
    (ids : ∀ kind, ((document.inventory kind).records.map (·.id)).Nodup)
    (dropped : document.Dropped gone left) (unused : entry ∈ document.unusedEntries) :
    held ∈ ((left.drop entry).inventory kind).records ↔
      held ∈ (left.inventory kind).records ∧ (⟨kind, held⟩ : Entry) ≠ entry := by
  obtain ⟨own, record⟩ := entry
  obtain ⟨member, -⟩ := Inventory.mem_unused.1 (mem_unusedEntries.1 unused)
  by_cases same : kind = own
  · subst kind
    rw [Document.drop, inventory_withInventory, Inventory.mem_erase_records]
    refine and_congr_right fun heldNow => not_congr ?_
    constructor
    · intro sameId
      have heldThen := ((dropped.records own held).1 heldNow).1
      rw [Inventory.eq_of_id (ids own) heldThen member sameId]
    · intro sameEntry
      cases sameEntry
      rfl
  · rw [Document.drop, inventory_withInventory_of_ne same]
    refine (and_iff_left ?_).symm
    intro sameEntry
    cases sameEntry
    exact same rfl

theorem Dropped.drop (ids : ∀ kind, ((document.inventory kind).records.map (·.id)).Nodup)
    (dropped : document.Dropped gone left) (unused : entry ∈ document.unusedEntries) :
    document.Dropped (gone ++ [entry]) (left.drop entry) := by
  obtain ⟨kind, record⟩ := entry
  obtain ⟨-, unnamed⟩ := Inventory.mem_unused.1 (mem_unusedEntries.1 unused)
  have unnamedNow : (left.inventory kind).current ≠ some record.id := by
    rwa [dropped.pointer kind]
  have others : ∀ other, other ≠ kind →
      (left.drop ⟨kind, record⟩).inventory other = left.inventory other :=
    fun other different => inventory_withInventory_of_ne different
  have own : (left.drop ⟨kind, record⟩).inventory kind =
      (left.inventory kind).erase record.id := inventory_withInventory
  constructor
  case identity => exact sameIdentity_withInventory.trans dropped.identity
  case vm => exact currentVm_withInventory.trans dropped.vm
  case pointer =>
    intro other
    by_cases same : other = kind
    · subst other
      rw [own, Inventory.erase_of_unnamed unnamedNow, dropped.pointer kind]
    · rw [others other same, dropped.pointer other]
  case currentRecord =>
    intro other
    by_cases same : other = kind
    · subst other
      rw [own, Inventory.currentRecord?_erase unnamedNow, dropped.currentRecord kind]
    · rw [others other same, dropped.currentRecord other]
  case order =>
    intro other
    by_cases same : other = kind
    · subst other
      rw [own]
      exact Inventory.erase_records_sublist.trans (dropped.order kind)
    · rw [others other same]
      exact dropped.order other
  case records =>
    intro other held
    rw [dropped.mem_drop ids unused, dropped.records, List.mem_append, not_or, List.mem_singleton,
      and_assoc]

theorem dropped_dropAll (ids : ∀ kind, ((document.inventory kind).records.map (·.id)).Nodup)
    (unused : ∀ entry ∈ gone, entry ∈ document.unusedEntries) :
    document.Dropped gone (document.dropAll gone) := by
  induction gone using List.reverseRecOn with
  | nil => exact dropped_nil
  | append_singleton gone entry ih =>
      obtain ⟨before, last⟩ := List.forall_mem_append.1 unused
      rw [dropAll_append]
      exact (ih before).drop ids (last entry (.head _))

/-- When all that was unused is gone, nothing is unused any more. -/
theorem Dropped.unused_eq_nil (dropped : document.Dropped document.unusedEntries left) :
    (left.inventory kind).unused = [] := by
  rw [List.eq_nil_iff_forall_not_mem]
  intro record unused
  obtain ⟨member, unnamed⟩ := Inventory.mem_unused.1 unused
  obtain ⟨member, kept⟩ := (dropped.records kind record).1 member
  rw [dropped.pointer kind] at unnamed
  exact kept (mem_unusedEntries.2 (Inventory.mem_unused.2 ⟨member, unnamed⟩))

end Document

end DeploymentLifecycle
