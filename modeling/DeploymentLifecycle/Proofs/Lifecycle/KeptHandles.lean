import DeploymentLifecycle.Proofs.Lifecycle.Released

namespace DeploymentLifecycle.Lifecycle

/-! A deployment that is kept over a sequence of calls, whatever comes of them, is the one that a
fresh lookup would give. -/

section LookUp

variable {settings : Settings} {document : Document} {stored after : Option Document}
  {trace : List (Event signature)}

def lookingAt (document : Document) : List (Event signature) :=
  List.replicate 3 ⟨.store .load, .ok document⟩

theorem along_lookingAt :
    surroundings.Along (some document) (lookingAt document) (some document) :=
  ⟨_, .loaded _, _, .loaded _, _, .loaded _, rfl⟩

namespace Deployment

def found? (settings : Settings) (document : Document) : Option Deployment :=
  if (ofDocument settings document).isEmpty then none else some (ofDocument settings document)

theorem eq_empty_of_isEmpty {deployment : Deployment} (empty : deployment.isEmpty) :
    deployment = {} := by
  obtain ⟨vmInstance, disk, stemcell⟩ := deployment
  simp only [isEmpty, Bool.and_eq_true, Option.isNone_iff_eq_none] at empty
  obtain ⟨⟨rfl, rfl⟩, rfl⟩ := empty
  rfl

theorem found?_getD : (found? settings document).getD {} = ofDocument settings document := by
  rw [found?]
  split
  · next empty => exact (eq_empty_of_isEmpty empty).symm
  · rfl

theorem current?_lookingAt : (current? settings).run.Yields (lookingAt document)
    (.ok (found? settings document)) :=
  ⟨_, _, rfl, _, _, rfl, _, _, rfl, rfl, rfl⟩

theorem loaded_along {answer : Except StateError Document}
    (along : surroundings.Along (some document) (⟨.store .load, answer⟩ :: trace) after) :
    (∃ error, answer = .error error) ∨
      answer = .ok document ∧ surroundings.Along (some document) trace after := by
  obtain ⟨middle, step, along⟩ := along
  cases step with
  | loaded => exact .inr ⟨rfl, along⟩
  | notLoaded _ error => exact .inl ⟨error, rfl⟩

theorem current?_yields {found : Option Deployment}
    (run : (current? settings).run.Yields trace (.ok found))
    (along : surroundings.Along (some document) trace after) :
    trace = lookingAt document ∧ after = some document ∧ found = found? settings document := by
  obtain ⟨_, _, rfl, run⟩ := run
  rcases loaded_along along with ⟨error, rfl⟩ | ⟨rfl, later⟩
  · cases run.2
  obtain ⟨_, _, rfl, run⟩ := run
  rcases loaded_along later with ⟨error, rfl⟩ | ⟨rfl, last⟩
  · cases run.2
  obtain ⟨_, _, rfl, run⟩ := run
  rcases loaded_along last with ⟨error, rfl⟩ | ⟨rfl, ends⟩
  · cases run.2
  obtain ⟨rfl, same⟩ := run
  exact ⟨rfl, ends, Except.ok.inj same⟩

theorem inStep_of_found {deployment : Deployment} {initial : Option Document}
    (found : (current? settings).run.Yields trace (.ok (some deployment)))
    (seen : surroundings.Along initial trace stored) : deployment.InStep settings stored := by
  have keeps : (current? settings).run.Keeps freely ⟨initial, []⟩ fun result after =>
      ∀ resolved, result = .ok (some resolved) → resolved.InStep settings after.stored := by
    refine current?_keeps (fun _ _ => nofun) (fun _ _ _ _ => nofun) ?_
    intro document _ resolved same
    split at same
    · cases same
    · cases same
      exact ⟨document, rfl, rfl⟩
  exact ends_of_keeps keeps found seen deployment rfl

end Deployment

end LookUp

/-- What can be done with a deployment that is kept. -/
inductive Call where
  | delete (skipDrain : Bool)
  | stop (skipDrain : Bool)
  | start (update : UpdatePolicy)

namespace Call

def program (settings : Settings) (deployment : Deployment) :
    Call → Prog signature (Deployment × Except LifecycleError Unit)
  | .delete skipDrain => deployment.delete settings skipDrain
  | .stop skipDrain => do return (deployment, ← (deployment.stop settings skipDrain).run)
  | .start update => do return (deployment, ← (deployment.start settings update).run)

/-- The same call on what a lookup finds. If it finds nothing, there are no handles. -/
def afresh (settings : Settings) (call : Call) :
    Program (Deployment × Except LifecycleError Unit) := do
  let found ← Deployment.current? settings
  ExceptT.lift (call.program settings (found.getD {}))

theorem keeps_inStep {settings : Settings} {deployment : Deployment} {stored : Option Document}
    (call : Call) (inStep : deployment.InStep settings stored) :
    (call.program settings deployment).Keeps freely ⟨stored, []⟩
      fun (left, _) after => left.InStep settings after.stored := by
  cases call with
  | delete skipDrain =>
      obtain ⟨document, rfl, rfl⟩ := inStep
      exact Deployment.delete_ofDocument.weaken fun _ _ ends => ends.1
  | stop skipDrain =>
      refine Prog.keeps_bind.2 (keeps_of_aside ?_ fun _ => inStep)
      rw [Deployment.stop]
      split
      · exact Instance.stop_asks aside_of_quiet aside_of_guest (fun _ => trivial) _ _ _
      · trivial
  | start update =>
      refine Prog.keeps_bind.2 (keeps_of_aside ?_ fun _ => inStep)
      rw [Deployment.start]
      split
      · exact Instance.start_asks aside_of_quiet aside_of_guest (fun _ => trivial) _ _ _
      · trivial

end Call

/-- A deployment that was looked up once in a document, and what is left of it after some calls,
with the document that is stored by then. Nobody else changes that. -/
inductive Kept (settings : Settings) (initial : Document) :
    Deployment → Option Document → Prop
  | found {deployment : Deployment} {trace : List (Event signature)} {stored : Option Document}
      (looking : (Deployment.current? settings).run.Yields trace (.ok (some deployment)))
      (along : surroundings.Along (some initial) trace stored) :
      Kept settings initial deployment stored
  | called {deployment left : Deployment} {before after : Option Document}
      {trace : List (Event signature)} {result : Except LifecycleError Unit}
      (earlier : Kept settings initial deployment before) (call : Call)
      (run : (call.program settings deployment).Yields trace (left, result))
      (along : surroundings.Along before trace after) : Kept settings initial left after

theorem Kept.inStep {settings : Settings} {initial : Document} {stored : Option Document}
    {deployment : Deployment} (kept : Kept settings initial deployment stored) :
    deployment.InStep settings stored := by
  induction kept with
  | found looking along => exact Deployment.inStep_of_found looking along
  | called earlier call run along ih => exact ends_of_keeps (call.keeps_inStep ih) run along

/-- However the calls on a kept deployment end, it is what a lookup resolves in the document that is
then stored; and a call on it is that call after a lookup, but for the lookup. -/
theorem kept_deployment_in_step {settings : Settings} {initial : Document}
    {stored : Option Document} {deployment : Deployment}
    (kept : Kept settings initial deployment stored) :
    (∀ trace found after, (Deployment.current? settings).run.Yields trace (.ok found) →
      surroundings.Along stored trace after → found.getD {} = deployment ∧ after = stored) ∧
    ∃ looking found, (Deployment.current? settings).run.Yields looking (.ok found) ∧
      surroundings.Along stored looking stored ∧
      (∀ event ∈ looking, event.request = .store .load) ∧
      ∀ call trace outcome after,
        (Call.afresh settings call).run.Yields trace (.ok outcome) ∧
          surroundings.Along stored trace after ↔
        ∃ rest, trace = looking ++ rest ∧ (call.program settings deployment).Yields rest outcome ∧
          surroundings.Along stored rest after := by
  obtain ⟨document, rfl, rfl⟩ := kept.inStep
  refine ⟨fun trace found after run along => ?_, lookingAt document,
    Deployment.found? settings document, Deployment.current?_lookingAt, along_lookingAt, ?_, ?_⟩
  · obtain ⟨_, same, rfl⟩ := Deployment.current?_yields run along
    exact ⟨Deployment.found?_getD, same⟩
  · intro event member
    rw [(List.mem_replicate.1 member).2]
  · intro call trace outcome after
    constructor
    · rintro ⟨run, along⟩
      rcases Prog.yields_exceptBind.1 run with
        ⟨error, failed, _⟩ | ⟨found, first, rest, rfl, looking, calling⟩
      · cases failed
      obtain ⟨middle, early, late⟩ := Conduct.along_append.1 along
      obtain ⟨rfl, rfl, rfl⟩ := Deployment.current?_yields looking early
      rw [Deployment.found?_getD, Prog.yields_lift] at calling
      exact ⟨rest, rfl, calling, late⟩
    · rintro ⟨rest, rfl, calling, along⟩
      constructor
      · refine Prog.yields_exceptBind.2 (.inr ⟨_, _, rest, rfl, Deployment.current?_lookingAt, ?_⟩)
        rw [Deployment.found?_getD, Prog.yields_lift]
        exact calling
      · exact Conduct.along_append.2 ⟨_, along_lookingAt, along⟩

/-- Two disks share an id. A deletion gets as far as the disk, which the provider refuses to
delete. -/
theorem refused_disk_stays_in_step : ∃ (record : Record .disk) (stored : Document),
    Kept {} { stored with currentVm := some ⟨"vm-1"⟩ } { disk := some record } (some stored) ∧
    ∀ trace found after, (Deployment.current? {}).run.Yields trace (.ok found) →
      surroundings.Along (some stored) trace after →
        found.getD {} = { disk := some record } ∧ after = some stored := by
  let record : Record .disk := ⟨⟨"id-1"⟩, ⟨"disk-1"⟩, {}⟩
  let stored : Document := { disks := ⟨some ⟨"id-1"⟩, [record, ⟨⟨"id-1"⟩, ⟨"disk-2"⟩, {}⟩]⟩ }
  let initial : Document := { stored with currentVm := some ⟨"vm-1"⟩ }
  let deployment : Deployment := ⟨some ⟨{}, ⟨"vm-1"⟩⟩, some record, none⟩
  let refusal : CloudError := .timeout "delete_disk" .zero
  let vmLabel := "Deleting VM 'vm-1'"
  let diskLabel := "Deleting disk 'disk-1'"
  let trace : List (Event signature) := [⟨.hasVm ⟨"vm-1"⟩, .ok false⟩, ⟨.stageBegun vmLabel, ()⟩,
    ⟨.now, .zero⟩, ⟨.delete .vm ⟨"vm-1"⟩, .ok .deleted⟩, ⟨.store .load, .ok initial⟩,
    ⟨.store (.save stored), .ok ()⟩, ⟨.now, .zero⟩, ⟨.stageEnded vmLabel .done .zero, ()⟩,
    ⟨.store .load, .ok stored⟩, ⟨.stageBegun diskLabel, ()⟩, ⟨.now, .zero⟩,
    ⟨.delete .disk ⟨"disk-1"⟩, .error refusal⟩, ⟨.now, .zero⟩,
    ⟨.stageEnded diskLabel (.failed (.cloud refusal)) .zero, ()⟩]
  have looked : Kept {} initial deployment (some initial) :=
    .found Deployment.current?_lookingAt along_lookingAt
  have run : ((Call.delete true).program {} deployment).Yields trace
      ({ disk := some record }, .error (.cloud refusal)) := by
    repeat refine ⟨_, _, rfl, ?_⟩
    exact ⟨rfl, rfl⟩
  have along : surroundings.Along (some initial) trace (some stored) :=
    ⟨_, rfl, _, rfl, _, rfl, _, rfl, _, .loaded _, _, .saved _ _, _, rfl, _, rfl, _, .loaded _,
      _, rfl, _, rfl, _, rfl, _, rfl, _, rfl, rfl⟩
  have kept := looked.called (.delete true) run along
  exact ⟨record, stored, kept, (kept_deployment_in_step kept).1⟩

end DeploymentLifecycle.Lifecycle
