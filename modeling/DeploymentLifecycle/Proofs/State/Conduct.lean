import DeploymentLifecycle.Proofs.Run
import DeploymentLifecycle.Proofs.State.Inventory
import DeploymentLifecycle.State.Repository

namespace DeploymentLifecycle

/-! What may be relied on in a store, and what each repository operation makes of the stored
document. Any request may fail; a save that fails leaves the document as it was. -/

namespace Store

/-- What is recorded in a store. One that holds no document yet has nothing on record. -/
def content (stored : Option Document) : Document := stored.getD {}

@[simp]
theorem content_some {document : Document} : content (some document) = document := rfl

theorem exists_of_recorded {stored : Option Document} {kind : Kind} {record : Record kind}
    (member : record ∈ ((content stored).inventory kind).records) :
    ∃ document, stored = some document := by
  cases stored with
  | some document => exact ⟨document, rfl⟩
  | none => cases kind <;> simp [content, Document.inventory] at member

/-- The conduct of a store. An identifier that it gives is not that of a record. -/
inductive Serves : Conduct signature (Option Document)
  | loaded (document : Document) : Serves (some document) ⟨.load, .ok document⟩ (some document)
  | created (directorId installationId : String) :
      Serves none ⟨.load, .ok { directorId, installationId }⟩ (some { directorId, installationId })
  | notLoaded (stored : Option Document) (error : StateError) :
      Serves stored ⟨.load, .error error⟩ stored
  | read (stored : Option Document) : Serves stored ⟨.read, .ok stored⟩ stored
  | notRead (stored : Option Document) (error : StateError) :
      Serves stored ⟨.read, .error error⟩ stored
  | saved (stored : Option Document) (document : Document) :
      Serves stored ⟨.save document, .ok ()⟩ (some document)
  | notSaved (stored : Option Document) (document : Document) (error : StateError) :
      Serves stored ⟨.save document, .error error⟩ stored
  | named (stored : Option Document) (text : String)
      (fresh : ∀ kind, ((content stored).inventory kind).hasId ⟨text⟩ = false) :
      Serves stored ⟨.freshId, text⟩ stored

def terms : Terms signature (Option Document) := ⟨fun _ _ => True, Serves⟩

/-- What a load finds: the stored document, or a new one that records nothing. -/
inductive Finds : Option Document → Document → Prop
  | stored (document : Document) : Finds (some document) document
  | blank (directorId installationId : String) : Finds none { directorId, installationId }

namespace Finds

variable {stored : Option Document} {document : Document} {kind : Kind}

theorem inventory (finds : Finds stored document) :
    document.inventory kind = (content stored).inventory kind := by
  cases finds with
  | stored => rfl
  | blank => cases kind <;> rfl

theorem currentVm (finds : Finds stored document) :
    document.currentVm = (content stored).currentVm := by
  cases finds <;> rfl

theorem eq_of_currentVm (finds : Finds stored document) (present : document.currentVm.isSome) :
    stored = some document := by
  cases finds with
  | stored => rfl
  | blank => simp at present

theorem eq_of_mentions {id : RecordId kind} (finds : Finds stored document)
    (present : (document.inventory kind).mentions id) : stored = some document := by
  cases finds with
  | stored => rfl
  | blank =>
      cases kind <;> simp [Document.inventory, Inventory.mentions, Inventory.hasId] at present

theorem eq_of_current (finds : Finds stored document)
    (present : (document.inventory kind).current.isSome) : stored = some document := by
  cases finds with
  | stored => rfl
  | blank => cases kind <;> simp [Document.inventory] at present

end Finds

variable {stored : Option Document}

theorem keeps_load {goal : Except StateError Document → Option Document → Prop} :
    load.run.Keeps terms stored goal ↔
      (∀ error, goal (.error error) stored) ∧
        ∀ document, Finds stored document → goal (.ok document) (some document) := by
  constructor
  · intro keeps
    have found : ∀ document, Finds stored document → goal (.ok document) (some document) := by
      intro document finds
      cases finds with
      | stored => exact keeps.2 (.ok document) _ (.loaded document)
      | blank directorId installationId =>
          exact keeps.2 (.ok _) _ (.created directorId installationId)
    exact ⟨fun error => keeps.2 (.error error) stored (.notLoaded stored error), found⟩
  · intro outcomes
    obtain ⟨failed, found⟩ := outcomes
    refine ⟨trivial, fun answer after step => ?_⟩
    cases step with
    | loaded document => exact found document (.stored document)
    | created directorId installationId => exact found _ (.blank directorId installationId)
    | notLoaded _ error => exact failed error

theorem keeps_save {document : Document} {goal : Except StateError Unit → Option Document → Prop} :
    (save document).run.Keeps terms stored goal ↔
      (∀ error, goal (.error error) stored) ∧ goal (.ok ()) (some document) := by
  constructor
  · intro keeps
    exact ⟨fun error => keeps.2 (.error error) stored (.notSaved stored document error),
      keeps.2 (.ok ()) _ (.saved stored document)⟩
  · intro outcomes
    obtain ⟨failed, saved⟩ := outcomes
    refine ⟨trivial, fun answer after step => ?_⟩
    cases step with
    | saved => exact saved
    | notSaved _ _ error => exact failed error

theorem keeps_view {α : Type} {view : Document → α}
    {goal : Except StateError α → Option Document → Prop} :
    ((do return view (← load) : Program α)).run.Keeps terms stored goal ↔
      (∀ error, goal (.error error) stored) ∧
        ∀ document, Finds stored document → goal (.ok (view document)) (some document) := by
  rw [ExceptT.run_bind, Prog.keeps_bind, keeps_load]
  rfl

theorem keeps_freshId {goal : Except StateError String → Option Document → Prop}
    (given : ∀ text, (∀ kind, ((content stored).inventory kind).hasId ⟨text⟩ = false) →
      goal (.ok text) stored) :
    freshId.run.Keeps terms stored goal := by
  refine ⟨trivial, fun answer after step => ?_⟩
  cases step with
  | named _ _ fresh => exact given answer fresh

end Store

end DeploymentLifecycle
