import DeploymentLifecycle.Proofs.Lifecycle.InstanceDeletion
import DeploymentLifecycle.Proofs.Lifecycle.Provider

namespace DeploymentLifecycle.Lifecycle

/-! Runs in which the store and the provider do what they are asked for. Only an agent fails in
them. -/

open Request

/-- Answers to everything but the store's requests, by what has happened so far. -/
abbrev Strategy := List (Event signature) → (request : Request) → Answer request

def Serving (trace : List (Event signature)) : Prop :=
  ∀ event ∈ trace, Fails event → IsAgent event.request

namespace Strategy

variable {strategy : Strategy} {stored after : Option Document}
  {past now trace : List (Event signature)} {α : Type}

/-- The store serves without a failure, and the strategy answers all else. -/
def conduct (strategy : Strategy) : Conduct signature (Option Document × List (Event signature)) :=
  fun before event after =>
    surroundings before.1 event after.1 ∧ after.2 = before.2 ++ [event] ∧
      match event with
      | ⟨.store request, answer⟩ => ¬ Store.Fails ⟨request, answer⟩
      | ⟨request, answer⟩ => answer = strategy before.2 request

/-- The strategy has the provider answer every call without an error. -/
def ProviderServes (strategy : Strategy) : Prop :=
  ∀ past request, IsCloud request → ¬ Fails ⟨request, strategy past request⟩

theorem exists_answer (strategy : Strategy) (before : Option Document × List (Event signature))
    (request : Request) : ∃ answer after, strategy.conduct before ⟨request, answer⟩ after := by
  obtain ⟨stored, past⟩ := before
  let given := strategy past request
  let event : Event signature := ⟨request, given⟩
  cases request with
  | store request =>
      obtain ⟨answer, after, serves, fine⟩ := Store.exists_answer stored request
      exact ⟨answer, (after, _), serves, rfl, fine⟩
  | _ =>
      refine ⟨given, (stored, past ++ [event]), ?_, rfl, ?_⟩
      all_goals rfl

theorem exists_run (strategy : Strategy) (program : Prog signature α) (stored : Option Document) :
    ∃ trace result after past, program.Yields trace result ∧
      strategy.conduct.Along (stored, []) trace (after, past) := by
  let any : Event signature → Prop := fun _ => True
  have answers : ∀ before request, ∃ answer after,
      strategy.conduct before ⟨request, answer⟩ after ∧ any ⟨request, answer⟩ := by
    intro before request
    obtain ⟨answer, after, step⟩ := strategy.exists_answer before request
    exact ⟨answer, after, step, trivial⟩
  obtain ⟨trace, result, ⟨after, past⟩, run, along, _⟩ :=
    Prog.exists_run answers program (stored, [])
  exact ⟨trace, result, after, past, run, along⟩

theorem along_surroundings (along : strategy.conduct.Along (stored, past) trace (after, now)) :
    surroundings.Along stored trace after :=
  along.project fun _ _ _ step => step.1

theorem forall_answers {holds : Event signature → Prop}
    (store : ∀ request answer, ¬ Store.Fails ⟨request, answer⟩ → holds ⟨.store request, answer⟩)
    (others : ∀ past request, ¬ IsStore request → holds ⟨request, strategy past request⟩)
    (along : strategy.conduct.Along (stored, past) trace (after, now)) :
    ∀ event ∈ trace, holds event := by
  refine along.forall fun before event next step => ?_
  obtain ⟨request, answer⟩ := event
  obtain ⟨_, _, answered⟩ := step
  cases request with
  | store request => exact store request answer answered
  | _ =>
      subst answered
      exact others _ _ id

theorem serving (provides : strategy.ProviderServes)
    (along : strategy.conduct.Along (stored, past) trace (after, now)) : Serving trace := by
  refine forall_answers (fun _ _ fine fails => absurd fails fine) ?_ along
  intro past request other fails
  cases request with
  | store => exact (other trivial).elim
  | hasVm | delete => exact absurd fails (provides past _ trivial)
  | now | sleep | stageBegun | stageEnded => exact fails.elim
  | _ => trivial

end Strategy

theorem Serving.fine_of_pings {trace : List (Event signature)} (serving : Serving trace)
    (pings : ∀ event ∈ trace, IsAgent event.request → IsPing event.request) :
    ∀ event ∈ trace, ¬ Fails event := by
  intro event member fails
  have ping := pings event member (serving event member fails)
  exact never_of_ping event.request event.answer (.inr ping) fails

/-! The calls of a provider, and the deletions among them, whatever the answers are. -/

def Asset.deletion (asset : Asset) : Request := .delete asset.resource asset.cid

def deletion? : Request → Option Asset
  | .delete resource cid => some ⟨resource, cid⟩
  | _ => none

def deletions (trace : List (Event signature)) : List Asset :=
  trace.filterMap fun event => deletion? event.request

instance : DecidablePred IsCloud
  | .hasVm _ | .delete .. => isTrue trivial
  | .now | .sleep _ | .stageBegun _ | .stageEnded .. | .store _ | .ping _ | .runScript .. | .drain _
  | .stop | .start | .getState | .listDisk | .unmountDisk _ => isFalse id

def providerCalls (trace : List (Event signature)) : List Request :=
  (trace.map (·.request)).filter (IsCloud ·)

section Calls

variable {trace : List (Event signature)}

theorem deletions_append {rest : List (Event signature)} :
    deletions (trace ++ rest) = deletions trace ++ deletions rest :=
  List.filterMap_append

theorem deletions_of_store (store : ∀ event ∈ trace, event.request.IsStore) :
    deletions trace = [] := by
  apply List.filterMap_eq_nil_iff.2
  intro event member
  have store := store event member
  obtain ⟨request, answer⟩ := event
  cases request <;> first | rfl | exact store.elim

theorem deletions_eq_agreements (serving : Serving trace) : deletions trace = agreements trace := by
  apply List.filterMap_congr
  intro event member
  obtain ⟨request, answer⟩ := event
  cases request with
  | delete resource cid =>
      cases answer with
      | ok deletion => rfl
      | error error => exact (serving _ member trivial).elim
  | _ => rfl

theorem providerCalls_of_unchecked (unchecked : ∀ event ∈ trace, ¬ IsVmCheck event.request) :
    providerCalls trace = (deletions trace).map Asset.deletion := by
  induction trace with
  | nil => rfl
  | cons event rest ih =>
      obtain ⟨first, others⟩ := List.forall_mem_cons.1 unchecked
      obtain ⟨request, answer⟩ := event
      have later := ih others
      cases request with
      | hasVm vm => exact (first trivial).elim
      | delete resource cid => exact congrArg (Request.delete resource cid :: ·) later
      | _ => exact later

end Calls

end DeploymentLifecycle.Lifecycle
