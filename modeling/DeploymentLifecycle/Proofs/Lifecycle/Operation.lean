import DeploymentLifecycle.Proofs.Lifecycle.Effects

namespace DeploymentLifecycle.Lifecycle

/-! What is done to a deployment over time. The handles that an operation is called with are those
of any lookup, however long ago; so they are taken to be any handles. -/

inductive Operation where
  | lookUp
  | status
  | stop (deployment : Deployment) (skipDrain : Bool)
  | start (deployment : Deployment) (update : UpdatePolicy)
  | delete (deployment : Deployment) (skipDrain : Bool)
  | deleteInstance (target : Instance) (skipDrain : Bool)
  | releaseCurrent {kind : Kind} (record : Record kind)
  | releaseUnused (kind : Kind)
  | cleanup

open Store (Finds)

namespace Operation

/-- What is left of a deployment after its deletion is left out here. -/
def program (settings : Settings) : Operation → Program Unit
  | .lookUp => do let _ ← Deployment.current? settings
  | .status => do let _ ← Deployment.status
  | .stop deployment skipDrain => deployment.stop settings skipDrain
  | .start deployment update => deployment.start settings update
  | .delete deployment skipDrain => ExceptT.mk do return (← deployment.delete settings skipDrain).2
  | .deleteInstance target skipDrain => target.delete settings skipDrain
  | .releaseCurrent record => Lifecycle.releaseCurrent record
  | .releaseUnused kind => Lifecycle.releaseUnused kind
  | .cleanup => Lifecycle.cleanup

def IsIdle : Operation → Prop
  | .lookUp | .status | .stop .. | .start .. => True
  | _ => False

theorem keeps_idle {operation : Operation} {settings : Settings} {moment : Moment}
    {holds : Moment → Prop} {mayDelete : Moment → (resource : Resource) → Cid resource → Prop}
    (idle : operation.IsIdle) (before : holds moment)
    (load : ∀ document, Finds moment.stored document → holds ⟨some document, moment.agreed⟩) :
    (operation.program settings).run.Keeps (terms mayDelete) moment fun _ => holds := by
  obtain ⟨stored, agreed⟩ := moment
  cases operation with
  | lookUp =>
      apply Prog.keeps_bind.2
      exact Deployment.current?_keeps (fun _ => before) (fun _ => load) load
  | status =>
      apply Prog.keeps_bind.2
      refine Prog.keeps_bind.2 (keeps_stored ⟨trivial, fun answer after step => ?_⟩)
      cases step with
      | read => exact before
      | notRead _ error => exact before
  | stop deployment skipDrain =>
      refine keeps_of_aside ?_ fun _ => before
      rw [program, Deployment.stop]
      split
      · exact Instance.stop_asks aside_of_quiet aside_of_guest (fun _ => trivial) _ _ _
      · trivial
  | start deployment update =>
      refine keeps_of_aside ?_ fun _ => before
      rw [program, Deployment.start]
      split
      · exact Instance.start_asks aside_of_quiet aside_of_guest (fun _ => trivial) _ _ _
      · trivial
  | _ => exact idle.elim

end Operation

/-- What the stored document may be after any operations on the deployment and any steps on the
document itself, in any order. -/
inductive History (initial : Option Document) : Option Document → Prop
  | start : History initial initial
  | operation {before after : Option Document} (earlier : History initial before)
      (settings : Settings) (operation : Operation) {trace : List (Event signature)}
      {result : Except LifecycleError Unit}
      (run : (operation.program settings).run.Yields trace result)
      (along : surroundings.Along before trace after) : History initial after
  | step {before after : Option Document} (earlier : History initial before) (step : RepositoryStep)
      {trace : List (Event Store.signature)} {result : Except StateError step.Answer}
      (run : step.program.run.Yields trace result) (along : Store.Serves.Along before trace after) :
      History initial after

end DeploymentLifecycle.Lifecycle
