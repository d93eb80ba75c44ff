import DeploymentLifecycle.Proofs.State.Sound
import Mathlib.Data.List.Perm.Basic

namespace DeploymentLifecycle

/-! What is left when the current records are dropped, and when all the others are. Where no pointer
dangles, the two leave nothing together, in either order. -/

namespace Inventory

variable {kind : Kind} {inventory : Inventory kind} {record : Record kind}

/-- A pointer that dangles is left as it is. -/
def dropCurrent (inventory : Inventory kind) : Inventory kind :=
  match inventory.currentRecord? with
  | some record => inventory.erase record.id
  | none => inventory

def dropUnused (inventory : Inventory kind) : Inventory kind :=
  { inventory with
    records := inventory.records.filter fun record => some record.id == inventory.current }

theorem dropCurrent_of_some (current : inventory.currentRecord? = some record) :
    inventory.dropCurrent = inventory.erase record.id := by
  rw [dropCurrent, current]

theorem dropCurrent_of_none (absent : inventory.currentRecord? = none) :
    inventory.dropCurrent = inventory := by
  rw [dropCurrent, absent]

@[simp]
theorem currentRecord?_dropCurrent : inventory.dropCurrent.currentRecord? = none := by
  cases found : inventory.currentRecord? with
  | none => rw [dropCurrent_of_none found, found]
  | some record =>
      have pointer := (currentRecord?_eq_some found).2
      rw [dropCurrent_of_some found]
      simp [erase, pointer, currentRecord?]

theorem Resolves.dropCurrent_eq (resolves : inventory.Resolves) :
    inventory.dropCurrent = inventory.withoutCurrent := by
  cases found : inventory.currentRecord? with
  | none => rw [dropCurrent_of_none found, resolves.withoutCurrent_eq found]
  | some record => rw [dropCurrent_of_some found, erase_current found]

theorem Resolves.unused_dropCurrent (resolves : inventory.Resolves) :
    inventory.dropCurrent.unused = inventory.unused := by
  rw [resolves.dropCurrent_eq]
  exact List.filter_eq_self.2 fun _ _ => rfl

def eraseAll (inventory : Inventory kind) (gone : List (Record kind)) : Inventory kind :=
  gone.foldl (fun left record => left.erase record.id) inventory

theorem eraseAll_of_unnamed {gone : List (Record kind)}
    (unnamed : ∀ record ∈ gone, inventory.current ≠ some record.id) :
    inventory.eraseAll gone = { inventory with
      records := inventory.records.filter fun record => gone.all (record.id != ·.id) } := by
  induction gone generalizing inventory with
  | nil => simp [eraseAll]
  | cons first rest ih =>
      obtain ⟨firstUnnamed, restUnnamed⟩ := List.forall_mem_cons.1 unnamed
      have step : inventory.eraseAll (first :: rest) = (inventory.erase first.id).eraseAll rest :=
        rfl
      rw [step, erase_of_unnamed firstUnnamed, ih]
      · simp [List.filter_filter, Bool.and_comm]
      · exact restUnnamed

theorem eraseAll_unused : inventory.eraseAll inventory.unused = inventory.dropUnused := by
  rw [eraseAll_of_unnamed fun record member => (mem_unused.1 member).2, dropUnused]
  congr 1
  apply List.filter_congr
  intro record member
  rw [Bool.eq_iff_iff]
  simp only [List.all_eq_true, bne_iff_ne, beq_iff_eq]
  constructor
  · intro apart
    by_contra other
    exact apart record (mem_unused.2 ⟨member, fun named => other named.symm⟩) rfl
  · intro named other unused same
    exact (mem_unused.1 unused).2 (by rw [← named, same])

@[simp]
theorem currentRecord?_dropUnused :
    inventory.dropUnused.currentRecord? = inventory.currentRecord? := by
  cases pointer : inventory.current with
  | none => simp [currentRecord?, dropUnused, pointer]
  | some id =>
      -- The search passes over what is dropped, none of which the pointer names.
      simp only [currentRecord?, dropUnused, pointer, Option.bind_some, List.find?_filter]
      congr 1
      funext other
      rw [Bool.eq_iff_iff]
      simp

theorem Resolves.dropUnused_dropCurrent (resolves : inventory.Resolves) :
    inventory.dropCurrent.dropUnused = {} := by
  rw [resolves.dropCurrent_eq]
  simp [withoutCurrent, dropUnused]

theorem Resolves.dropCurrent_dropUnused (resolves : inventory.Resolves) :
    inventory.dropUnused.dropCurrent = {} := by
  cases found : inventory.currentRecord? with
  | none =>
      have pointer := resolves.current_eq_none found
      rw [dropCurrent_of_none (currentRecord?_dropUnused.trans found)]
      simp [dropUnused, pointer]
  | some record =>
      have pointer := (currentRecord?_eq_some found).2
      rw [dropCurrent_of_some (currentRecord?_dropUnused.trans found)]
      simp [dropUnused, Inventory.erase, pointer]

theorem filter_id {records : List (Record kind)} {id : RecordId kind}
    (ids : (records.map (·.id)).Nodup) :
    records.filter (fun record => record.id == id) =
      (records.find? fun record => record.id == id).toList := by
  induction records with
  | nil => rfl
  | cons first rest ih =>
      obtain ⟨fresh, ids⟩ := List.nodup_cons.1 ids
      by_cases named : first.id = id
      · have others : rest.filter (fun record => record.id == id) = [] := by
          rw [List.filter_eq_nil_iff]
          intro other member same
          have sameId : other.id = first.id := (eq_of_beq same).trans named.symm
          exact fresh (List.mem_map.2 ⟨other, member, sameId⟩)
        simp [named, others]
      · simpa [named] using ih ids

theorem filter_current (ids : (inventory.records.map (·.id)).Nodup) :
    inventory.records.filter (fun record => some record.id == inventory.current) =
      inventory.currentRecord?.toList := by
  cases pointer : inventory.current with
  | none => simp [currentRecord?, pointer]
  | some id => simpa [currentRecord?, pointer] using filter_id ids

/-- The current record and the unused ones are all there are. -/
theorem records_perm (ids : (inventory.records.map (·.id)).Nodup) :
    (inventory.currentRecord?.toList ++ inventory.unused).Perm inventory.records := by
  rw [← filter_current ids]
  exact List.filter_append_perm _ _

end Inventory

namespace Document

variable {document : Document} {kind : Kind}

def withoutVm (document : Document) : Document := { document with currentVm := none }

theorem withoutVm_of_none (absent : document.currentVm = none) : document.withoutVm = document := by
  rw [withoutVm, ← absent]

def dropCurrent (document : Document) (kind : Kind) : Document :=
  document.withInventory (document.inventory kind).dropCurrent

def dropUnused (document : Document) (kind : Kind) : Document :=
  document.withInventory (document.inventory kind).dropUnused

/-- What a deletion leaves that succeeds. -/
def deleted (document : Document) : Document :=
  (document.withoutVm.dropCurrent .disk).dropCurrent .stemcell

/-- What a cleanup leaves that succeeds. -/
def cleaned (document : Document) : Document :=
  (document.dropUnused .disk).dropUnused .stemcell

theorem inventory_deleted :
    document.deleted.inventory kind = (document.inventory kind).dropCurrent := by
  cases kind <;> rfl

theorem inventory_cleaned :
    document.cleaned.inventory kind = (document.inventory kind).dropUnused := by
  cases kind <;> rfl

/-- All that is left of a document of which nothing is recorded any more. -/
def blank (document : Document) : Document where
  directorId := document.directorId
  installationId := document.installationId

theorem cleaned_deleted (resolves : ∀ kind, (document.inventory kind).Resolves) :
    document.deleted.cleaned = document.blank := by
  refine eq_of_parts rfl rfl rfl fun kind => ?_
  rw [inventory_cleaned, inventory_deleted, (resolves kind).dropUnused_dropCurrent]
  cases kind <;> rfl

theorem deleted_cleaned (resolves : ∀ kind, (document.inventory kind).Resolves) :
    document.cleaned.deleted = document.blank := by
  refine eq_of_parts rfl rfl rfl fun kind => ?_
  rw [inventory_deleted, inventory_cleaned, (resolves kind).dropCurrent_dropUnused]
  cases kind <;> rfl

end Document

end DeploymentLifecycle
