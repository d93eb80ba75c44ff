import DeploymentLifecycle.Proofs.State.Repository
import DeploymentLifecycle.Proofs.State.TornDown

namespace DeploymentLifecycle

/-! Documents whose records can be told apart and whose pointers do not dangle. No change to the
stored document makes an unsound one of a sound one, or changes whose document it is. -/

open Store (Finds content)

namespace Inventory

variable {kind : Kind} {inventory : Inventory kind} {id : RecordId kind}

theorem Resolves.unpoint : ({ inventory with current := none } : Inventory kind).Resolves := nofun

theorem Resolves.point (present : inventory.hasId id = true) :
    ({ inventory with current := some id } : Inventory kind).Resolves := by
  intro named pointer
  cases pointer
  exact present

theorem Resolves.erase (resolves : inventory.Resolves) : (inventory.erase id).Resolves := by
  intro named pointer
  by_cases erased : inventory.current = some id
  · simp [Inventory.erase, erased] at pointer
  · have still : inventory.current = some named := by simpa [Inventory.erase, erased] using pointer
    obtain ⟨record, member, same⟩ := List.any_eq_true.1 (resolves named still)
    have sameId : record.id = named := eq_of_beq same
    have different : record.id ≠ id := by
      intro other
      rw [← other, sameId] at erased
      exact erased still
    exact List.any_eq_true.2 ⟨record, mem_erase_records.2 ⟨member, different⟩, same⟩

theorem Resolves.insert {record : Record kind} (resolves : inventory.Resolves) :
    (inventory.insert record).Resolves := by
  intro named pointer
  have present : inventory.hasId named = true := resolves named pointer
  rw [hasId] at present ⊢
  simp [Inventory.insert, present]

end Inventory

namespace Document

/-- Records of a kind differ in id and in CID, and a pointer that is set names one of them. -/
structure Sound (document : Document) : Prop where
  distinct : document.Distinct
  resolves : ∀ kind, (document.inventory kind).Resolves

structure SameIdentity (document other : Document) : Prop where
  director : document.directorId = other.directorId
  installation : document.installationId = other.installationId

variable {document : Document} {kind : Kind} {inventory : Inventory kind}

theorem sound_blank {directorId installationId : String} :
    ({ directorId, installationId } : Document).Sound where
  distinct := distinct_blank
  resolves kind := by cases kind <;> nofun

theorem sameIdentity_withInventory : (document.withInventory inventory).SameIdentity document := by
  cases kind <;> exact ⟨rfl, rfl⟩

theorem SameIdentity.trans {middle other : Document} (first : document.SameIdentity middle)
    (rest : middle.SameIdentity other) : document.SameIdentity other :=
  ⟨first.director.trans rest.director, first.installation.trans rest.installation⟩

theorem Sound.withInventory (sound : document.Sound) (distinct : inventory.Distinct)
    (resolves : inventory.Resolves) : (document.withInventory inventory).Sound where
  distinct := sound.distinct.withInventory distinct
  resolves other := by
    by_cases same : other = kind
    · subst other
      rw [inventory_withInventory]
      exact resolves
    · rw [inventory_withInventory_of_ne same]
      exact sound.resolves other

/-- What is stored is sound, and is still of the deployment of the first document, if there was
one. -/
structure Intact (first stored : Option Document) : Prop where
  sound : (content stored).Sound
  identity : ∀ document, first = some document →
    ∃ now, stored = some now ∧ now.SameIdentity document

namespace Intact

variable {first : Option Document}

theorem changed {now : Document} (intact : Intact first (some document)) (sound : now.Sound)
    (same : now.SameIdentity document) : Intact first (some now) where
  sound := sound
  identity start isFirst := by
    obtain ⟨old, stored, before⟩ := intact.identity start isFirst
    cases stored
    exact ⟨now, rfl, same.trans before⟩

theorem withInventory (intact : Intact first (some document)) (distinct : inventory.Distinct)
    (resolves : inventory.Resolves) : Intact first (some (document.withInventory inventory)) :=
  intact.changed (intact.sound.withInventory distinct resolves) sameIdentity_withInventory

theorem preserved : Preserved (Intact first) where
  load := by
    intro stored document intact finds
    refine ⟨⟨distinct_preserved.load intact.sound.distinct finds, fun kind => ?_⟩, ?_⟩
    · rw [Store.content_some, finds.inventory]
      exact intact.sound.resolves kind
    · intro start isFirst
      obtain ⟨now, rfl, same⟩ := intact.identity start isFirst
      cases finds with
      | stored => exact ⟨_, rfl, same⟩
  setVm := by
    intro document vm intact
    refine intact.changed ⟨intact.sound.distinct.withCurrentVm, fun kind => ?_⟩ ⟨rfl, rfl⟩
    rw [inventory_withCurrentVm]
    exact intact.sound.resolves kind
  point := by
    intro document kind id intact present
    have distinct := intact.sound.distinct kind
    exact intact.withInventory ⟨distinct.ids, distinct.cids⟩ (.point present)
  unpoint := by
    intro document kind intact
    have distinct := intact.sound.distinct kind
    exact intact.withInventory ⟨distinct.ids, distinct.cids⟩ .unpoint
  erase := by
    intro document kind id intact
    have distinct := intact.sound.distinct kind
    exact intact.withInventory distinct.erase (intact.sound.resolves kind).erase
  insert := by
    intro document kind record intact newId newCid
    have distinct := (intact.sound.distinct kind).insert newId newCid
    exact intact.withInventory distinct (intact.sound.resolves kind).insert

end Intact

end Document

end DeploymentLifecycle
