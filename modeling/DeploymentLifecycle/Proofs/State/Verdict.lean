import DeploymentLifecycle.Proofs.Perform
import DeploymentLifecycle.Proofs.State.Repository

namespace DeploymentLifecycle

/-! Every operation on the stored document loads it once and then either answers, or saves another
document in its place. -/

open Store (freshId load save)

/-- What an operation does about the document that it has loaded. -/
inductive Verdict (α : Type) where
  | answer (result : Except StateError α)
  | replace (document : Document) (value : α)

def Verdict.program {α : Type} : Verdict α → Store.Program α
  | .answer result => ExceptT.mk (pure result)
  | .replace document value => do
    save document
    return value

theorem save_return (document : Document) : (do save document; return ()) = save document := by
  change ExceptT.mk (Prog.ask (S := Store.signature) _ _) = ExceptT.mk (Prog.ask _ _)
  congr 2
  funext saved
  cases saved <;> rfl

theorem program_ite {condition : Prop} [Decidable condition] {document : Document}
    {result : Except StateError Unit} :
    (if condition then Verdict.replace document () else .answer result).program =
      if condition then save document else ExceptT.mk (pure result) := by
  split
  · exact save_return document
  · rfl

namespace RepositoryStep

/-- The identifier that an operation asks for, if it needs one. -/
def identifier : RepositoryStep → Store.Program String
  | .insert .. => freshId
  | _ => pure ""

/-- The verdict of an operation; `text` is the identifier that it was given. -/
def verdict (text : String) (document : Document) : (step : RepositoryStep) → Verdict step.Answer
  | .currentVm => .answer (.ok document.currentVm)
  | .setCurrentVm cid => .replace { document with currentVm := some cid } ()
  | .clearCurrentVm =>
    if document.currentVm.isSome then .replace { document with currentVm := none } ()
    else .answer (.ok ())
  | .current kind => .answer (.ok (document.inventory kind).currentRecord?)
  | @RepositoryStep.setCurrent kind id =>
    if (document.inventory kind).hasId id then
      .replace (document.withInventory { document.inventory kind with current := some id }) ()
    else .answer (.error (.recordNotFound kind id.text))
  | .clearCurrent kind =>
    if (document.inventory kind).current.isSome then
      .replace (document.withInventory { document.inventory kind with current := none }) ()
    else .answer (.ok ())
  | .find kind cid => .answer (.ok ((document.inventory kind).find? cid))
  | .all kind => .answer (.ok (document.inventory kind).records)
  | .unused kind => .answer (.ok (document.inventory kind).unused)
  | @RepositoryStep.delete kind id =>
    if (document.inventory kind).mentions id then
      .replace (document.withInventory ((document.inventory kind).erase id)) ()
    else .answer (.ok ())
  | .insert kind cid details =>
    if (document.inventory kind).hasCid cid then .answer (.error (.duplicateCid kind cid.text))
    else
      .replace (document.withInventory ((document.inventory kind).insert ⟨⟨text⟩, cid, details⟩))
        ⟨⟨text⟩, cid, details⟩

/-- What an operation begins with. -/
def opening (step : RepositoryStep) : Store.Program (String × Document) := do
  let text ← step.identifier
  let document ← load
  return (text, document)

theorem program_eq (step : RepositoryStep) :
    step.program = step.opening >>= fun opened => (step.verdict opened.1 opened.2).program := by
  simp only [opening, bind_assoc, pure_bind]
  cases step with
  | currentVm => rfl
  | current kind => rfl
  | find kind cid => rfl
  | all kind => rfl
  | unused kind => rfl
  | setCurrentVm cid =>
      change load >>= _ = load >>= _
      congr 1
      funext document
      exact (save_return _).symm
  | insert kind cid details =>
      change freshId >>= _ = freshId >>= _
      congr 1
      funext text
      change load >>= _ = load >>= _
      congr 1
      funext document
      simp only [verdict]
      cases (document.inventory kind).hasCid cid <;> rfl
  | clearCurrentVm | setCurrent | clearCurrent | delete =>
      change load >>= _ = load >>= _
      congr 1
      funext document
      exact program_ite.symm

end RepositoryStep

end DeploymentLifecycle
