import DeploymentLifecycle.Proofs.State.Conduct

namespace DeploymentLifecycle

open Store

/-! What each operation on the stored document makes of it, whatever the store does. -/

variable {stored : Option Document} {kind : Kind}

namespace CurrentVm

theorem find?_keeps {goal : Except StateError (Option (Cid .vm)) → Option Document → Prop}
    (failed : ∀ error, goal (.error error) stored)
    (found : ∀ document, Finds stored document → goal (.ok document.currentVm) (some document)) :
    find?.run.Keeps terms stored goal :=
  keeps_view.2 ⟨failed, found⟩

theorem set_keeps {cid : Cid .vm} {goal : Except StateError Unit → Option Document → Prop}
    (unread : ∀ error, goal (.error error) stored)
    (unsaved : ∀ error document, Finds stored document → goal (.error error) (some document))
    (pointed : ∀ document, Finds stored document →
      goal (.ok ()) (some { document with currentVm := some cid })) :
    (set cid).run.Keeps terms stored goal := by
  rw [set, ExceptT.run_bind, Prog.keeps_bind, keeps_load]
  refine ⟨unread, fun document finds => ?_⟩
  exact keeps_save.2 ⟨fun error => unsaved error document finds, pointed document finds⟩

/-- Clearing the pointer fails without a change, or leaves no VM current, whichever one was. -/
theorem clear_keeps {goal : Except StateError Unit → Option Document → Prop}
    (failed : ∀ error, goal (.error error) stored)
    (cleared : ∀ document, Finds stored document →
      goal (.ok ()) (some { document with currentVm := none })) :
    clear.run.Keeps terms stored goal := by
  rw [clear, ExceptT.run_bind, Prog.keeps_bind, keeps_load]
  refine ⟨failed, fun document finds => ?_⟩
  dsimp only
  split
  · next present =>
    obtain rfl := finds.eq_of_currentVm present
    exact keeps_save.2 ⟨failed, cleared document finds⟩
  · next absent =>
    have same : { document with currentVm := none } = document := by
      rw [← Option.not_isSome_iff_eq_none.1 absent]
    exact same ▸ cleared document finds

end CurrentVm

namespace Records

theorem current?_keeps {goal : Except StateError (Option (Record kind)) → Option Document → Prop}
    (failed : ∀ error, goal (.error error) stored)
    (found : ∀ document, Finds stored document →
      goal (.ok (document.inventory kind).currentRecord?) (some document)) :
    (current? kind).run.Keeps terms stored goal :=
  keeps_view.2 ⟨failed, found⟩

theorem unused_keeps {goal : Except StateError (List (Record kind)) → Option Document → Prop}
    (failed : ∀ error, goal (.error error) stored)
    (found : ∀ document, Finds stored document →
      goal (.ok (document.inventory kind).unused) (some document)) :
    (unused kind).run.Keeps terms stored goal :=
  keeps_view.2 ⟨failed, found⟩

theorem setCurrent_keeps {id : RecordId kind}
    {goal : Except StateError Unit → Option Document → Prop}
    (unread : ∀ error, goal (.error error) stored)
    (notFound : ∀ document, Finds stored document → (document.inventory kind).hasId id = false →
      goal (.error (.recordNotFound kind id.text)) (some document))
    (unsaved : ∀ error document, Finds stored document → goal (.error error) (some document))
    (pointed : ∀ document, Finds stored document → (document.inventory kind).hasId id = true →
      goal (.ok ())
        (some (document.withInventory { document.inventory kind with current := some id }))) :
    (setCurrent id).run.Keeps terms stored goal := by
  rw [setCurrent, ExceptT.run_bind, Prog.keeps_bind, keeps_load]
  refine ⟨unread, fun document finds => ?_⟩
  dsimp only
  split
  · next present =>
    exact keeps_save.2 ⟨fun error => unsaved error document finds, pointed document finds present⟩
  · next absent => exact notFound document finds (Bool.eq_false_iff.2 absent)

theorem clearCurrent_keeps {goal : Except StateError Unit → Option Document → Prop}
    (failed : ∀ error, goal (.error error) stored)
    (cleared : ∀ document, Finds stored document → goal (.ok ())
      (some (document.withInventory { document.inventory kind with current := none }))) :
    (clearCurrent kind).run.Keeps terms stored goal := by
  rw [clearCurrent, ExceptT.run_bind, Prog.keeps_bind, keeps_load]
  refine ⟨failed, fun document finds => ?_⟩
  dsimp only
  split
  · next present =>
    obtain rfl := finds.eq_of_current present
    exact keeps_save.2 ⟨failed, cleared document finds⟩
  · next absent =>
    have same : { document.inventory kind with current := none } = document.inventory kind := by
      rw [← Option.not_isSome_iff_eq_none.1 absent]
    have unchanged := cleared document finds
    rw [same, Document.withInventory_inventory] at unchanged
    exact unchanged

theorem delete_keeps {id : RecordId kind} {goal : Except StateError Unit → Option Document → Prop}
    (failed : ∀ error, goal (.error error) stored)
    (deleted : ∀ document, Finds stored document →
      goal (.ok ()) (some (document.withInventory ((document.inventory kind).erase id)))) :
    (delete id).run.Keeps terms stored goal := by
  rw [delete, ExceptT.run_bind, Prog.keeps_bind, keeps_load]
  refine ⟨failed, fun document finds => ?_⟩
  dsimp only
  split
  · next present =>
    obtain rfl := finds.eq_of_mentions present
    exact keeps_save.2 ⟨failed, deleted document finds⟩
  · next absent =>
    have kept : (document.inventory kind).erase id = document.inventory kind :=
      Inventory.erase_of_not_mentions (Bool.eq_false_iff.2 absent)
    have same : document.withInventory ((document.inventory kind).erase id) = document := by
      rw [kept, Document.withInventory_inventory]
    exact same ▸ deleted document finds

theorem insert_keeps {cid : Cid kind.resource} {details : kind.Details}
    {goal : Except StateError (Record kind) → Option Document → Prop}
    (unread : ∀ error, goal (.error error) stored)
    (duplicate : ∀ document, Finds stored document → (document.inventory kind).hasCid cid = true →
      goal (.error (.duplicateCid kind cid.text)) (some document))
    (unsaved : ∀ error document, Finds stored document → goal (.error error) (some document))
    (inserted : ∀ text document, Finds stored document →
      (document.inventory kind).hasId ⟨text⟩ = false →
      (document.inventory kind).hasCid cid = false →
      goal (.ok ⟨⟨text⟩, cid, details⟩)
        (some (document.withInventory ((document.inventory kind).insert ⟨⟨text⟩, cid, details⟩)))) :
    (insert cid details).run.Keeps terms stored goal := by
  rw [insert, ExceptT.run_bind, Prog.keeps_bind]
  refine keeps_freshId fun text fresh => ?_
  dsimp only
  rw [ExceptT.run_bind, Prog.keeps_bind, keeps_load]
  refine ⟨unread, fun document finds => ?_⟩
  dsimp only
  split
  · next taken => exact duplicate document finds taken
  · next free =>
    have newId : (document.inventory kind).hasId ⟨text⟩ = false := by
      rw [finds.inventory]
      exact fresh kind
    have newCid : (document.inventory kind).hasCid cid = false := Bool.eq_false_iff.2 free
    rw [ExceptT.run_bind, Prog.keeps_bind, keeps_save]
    exact ⟨fun error => unsaved error document finds, inserted text document finds newId newCid⟩

end Records

inductive RepositoryStep where
  | currentVm
  | setCurrentVm (cid : Cid .vm)
  | clearCurrentVm
  | current (kind : Kind)
  | setCurrent {kind : Kind} (id : RecordId kind)
  | clearCurrent (kind : Kind)
  | find (kind : Kind) (cid : Cid kind.resource)
  | all (kind : Kind)
  | unused (kind : Kind)
  | delete {kind : Kind} (id : RecordId kind)
  | insert (kind : Kind) (cid : Cid kind.resource) (details : kind.Details)

namespace RepositoryStep

@[reducible]
def Answer : RepositoryStep → Type
  | .currentVm => Option (Cid .vm)
  | .setCurrentVm _ => Unit
  | .clearCurrentVm => Unit
  | .current kind => Option (Record kind)
  | .setCurrent _ => Unit
  | .clearCurrent _ => Unit
  | .find kind _ => Option (Record kind)
  | .all kind => List (Record kind)
  | .unused kind => List (Record kind)
  | .delete _ => Unit
  | .insert kind _ _ => Record kind

def program : (step : RepositoryStep) → Store.Program step.Answer
  | .currentVm => CurrentVm.find?
  | .setCurrentVm cid => CurrentVm.set cid
  | .clearCurrentVm => CurrentVm.clear
  | .current kind => Records.current? kind
  | .setCurrent id => Records.setCurrent id
  | .clearCurrent kind => Records.clearCurrent kind
  | .find _ cid => Records.find? cid
  | .all kind => Records.all kind
  | .unused kind => Records.unused kind
  | .delete id => Records.delete id
  | .insert _ cid details => Records.insert cid details

end RepositoryStep

/-- A property of what is stored that none of the changes to it takes away. -/
structure Preserved (holds : Option Document → Prop) : Prop where
  load : ∀ {stored document}, holds stored → Finds stored document → holds (some document)
  setVm : ∀ {document} {vm : Option (Cid .vm)}, holds (some document) →
    holds (some { document with currentVm := vm })
  point : ∀ {document : Document} {kind} {id : RecordId kind}, holds (some document) →
    (document.inventory kind).hasId id = true →
      holds (some (document.withInventory { document.inventory kind with current := some id }))
  unpoint : ∀ {document : Document} {kind}, holds (some document) →
    holds (some (document.withInventory { document.inventory kind with current := none }))
  erase : ∀ {document : Document} {kind} {id : RecordId kind}, holds (some document) →
    holds (some (document.withInventory ((document.inventory kind).erase id)))
  insert : ∀ {document : Document} {kind} {record : Record kind}, holds (some document) →
    (document.inventory kind).hasId record.id = false →
    (document.inventory kind).hasCid record.cid = false →
      holds (some (document.withInventory ((document.inventory kind).insert record)))

theorem RepositoryStep.keeps {holds : Option Document → Prop} (preserved : Preserved holds)
    (step : RepositoryStep) (before : holds stored) :
    step.program.run.Keeps terms stored fun _ after => holds after := by
  have found : ∀ document, Finds stored document → holds (some document) :=
    fun _ finds => preserved.load before finds
  have foundOn : ∀ (_ : StateError) document, Finds stored document → holds (some document) :=
    fun _ => found
  cases step with
  | currentVm => exact CurrentVm.find?_keeps (fun _ => before) found
  | setCurrentVm cid =>
      apply CurrentVm.set_keeps (fun _ => before) foundOn
      exact fun document finds => preserved.setVm (found document finds)
  | clearCurrentVm =>
      apply CurrentVm.clear_keeps fun _ => before
      exact fun document finds => preserved.setVm (found document finds)
  | current kind => exact Records.current?_keeps (fun _ => before) found
  | setCurrent id =>
      apply Records.setCurrent_keeps (fun _ => before) (fun _ finds _ => found _ finds) foundOn
      exact fun document finds => preserved.point (found document finds)
  | clearCurrent kind =>
      apply Records.clearCurrent_keeps fun _ => before
      exact fun document finds => preserved.unpoint (found document finds)
  | find kind cid => exact keeps_view.2 ⟨fun _ => before, found⟩
  | all kind => exact keeps_view.2 ⟨fun _ => before, found⟩
  | unused kind => exact Records.unused_keeps (fun _ => before) found
  | delete id =>
      apply Records.delete_keeps fun _ => before
      exact fun document finds => preserved.erase (found document finds)
  | insert kind cid details =>
      apply Records.insert_keeps (fun _ => before) (fun _ finds _ => found _ finds) foundOn
      intro text document finds newId newCid
      exact preserved.insert (found document finds) newId newCid

theorem Document.distinct_preserved : Preserved fun stored => (content stored).Distinct where
  load distinct finds kind := by
    rw [content_some, finds.inventory]
    exact distinct kind
  setVm distinct := distinct.withCurrentVm
  point distinct _ := distinct.withInventory ⟨(distinct _).ids, (distinct _).cids⟩
  unpoint distinct := distinct.withInventory ⟨(distinct _).ids, (distinct _).cids⟩
  erase distinct := distinct.withInventory (distinct _).erase
  insert distinct newId newCid := distinct.withInventory ((distinct _).insert newId newCid)

end DeploymentLifecycle
