import DeploymentLifecycle.Proofs.Lifecycle.DeletionOrder
import DeploymentLifecycle.Proofs.Lifecycle.KeptHandles
import DeploymentLifecycle.Proofs.Lifecycle.Serving

namespace DeploymentLifecycle.Lifecycle

/-! What has to be done inside a VM can fail a deletion only if somebody answers there. -/

open Request

variable {trace : List (Event signature)} {settings : Settings} {skipDrain : Bool}
  {deployment left : Deployment} {result : Except LifecycleError Unit} {document : Document}

/-- The provider does not know the VM, or no ping is answered in time. -/
def Unattended (trace : List (Event signature)) : Prop :=
  (∃ vm, ⟨.hasVm vm, .ok false⟩ ∈ trace) ∨ ∀ event ∈ trace, ¬ IsAnsweredPing event

theorem VmOrder.pings_of_unattended (order : VmOrder skipDrain trace)
    (unattended : Unattended trace) : ∀ event ∈ trace, IsAgent event.request →
      IsPing event.request := by
  rcases unattended with ⟨vm, unknown⟩ | unanswered
  · have silent := order.unknown ⟨_, unknown, trivial⟩
    exact fun event member agent => absurd agent (silent event member)
  · exact order.unanswered unanswered

theorem VmOrder.fine_of_unattended (order : VmOrder skipDrain trace) (serving : Serving trace)
    (unattended : Unattended trace) : ∀ event ∈ trace, ¬ Fails event :=
  serving.fine_of_pings (order.pings_of_unattended unattended)

theorem fine_iff_guestCalls (serving : Serving trace) :
    (∀ event ∈ trace, ¬ Fails event) ↔ ∀ event ∈ guestCalls trace, ¬ Fails event := by
  constructor
  · intro fine event called
    exact fine event (List.mem_filter.1 called).1
  · intro fine event member fails
    have guest : IsGuest event.request :=
      ⟨serving event member fails,
        fun ping => never_of_ping event.request event.answer (.inr ping) fails⟩
    exact fine event (List.mem_filter.2 ⟨member, decide_eq_true guest⟩) fails

namespace Deployment

theorem delete_splits (run : (deployment.delete settings skipDrain).Yields trace (left, result)) :
    ∃ vm rest, trace = vm ++ rest ∧
      (∃ outcome, Consumed deployment.vmInstance (·.delete settings skipDrain) vm outcome) ∧
      ∀ event ∈ rest, IsApart event.request := by
  obtain ⟨vm, disk, stemcell, rfl, vmRun, diskRun, stemcellRun⟩ := delete_yields run
  have diskApart := calls_of_consumed diskRun releaseCurrent_apart
  have stemcellApart := calls_of_consumed (stemcellRun.imp_right And.right) releaseCurrent_apart
  exact ⟨vm, _, rfl, vmRun, List.forall_mem_append.2 ⟨diskApart, stemcellApart⟩⟩

theorem delete_vmOrder (run : (deployment.delete settings skipDrain).Yields trace (left, result)) :
    VmOrder skipDrain trace := by
  obtain ⟨vm, rest, rfl, ⟨outcome, vmRun⟩, apart⟩ := delete_splits run
  rcases vmRun with ⟨_, rfl, _⟩ | ⟨target, _, deletion⟩
  · exact VmOrder.nil.append apart
  · exact (VmOrder.of_run (Instance.delete_yields deletion)).append apart

/-- What a deletion asks the provider for that nothing stops. -/
def providerPlan (deployment : Deployment) : List Request :=
  (deployment.vmInstance.map fun target => .hasVm target.vm).toList ++
    deployment.assets.map Asset.deletion

theorem providerCalls_eq (run : (deployment.delete settings skipDrain).Yields trace (left, result))
    (all : deletions trace = deployment.assets) :
    providerCalls trace = deployment.providerPlan := by
  obtain ⟨vm, rest, rfl, ⟨outcome, vmRun⟩, apart⟩ := delete_splits run
  have unchecked : ∀ event ∈ rest, ¬ IsVmCheck event.request :=
    fun event member => (apart event member).2.1
  rcases vmRun with ⟨absent, rfl, _⟩ | ⟨target, held, deletion⟩
  · rw [List.nil_append] at all ⊢
    rw [providerCalls_of_unchecked unchecked, all, providerPlan, absent]
    rfl
  · obtain ⟨known, within, rfl, vmUnchecked⟩ := (Instance.delete_yields deletion).checks
    have behind : providerCalls (within ++ rest) = deployment.assets.map Asset.deletion := by
      rw [providerCalls_of_unchecked (List.forall_mem_append.2 ⟨vmUnchecked, unchecked⟩), ← all]
      rfl
    rw [providerPlan, held, ← behind]
    rfl

theorem delete_succeeds_iff
    (run : (deployment.delete settings skipDrain).Yields trace (left, result)) :
    result = .ok () ↔ ∀ event ∈ trace, ¬ Fails event := by
  refine Iff.trans ?_ ((deployment.delete_stops settings skipDrain).success_iff run)
  cases result with
  | ok _ => exact ⟨fun _ => rfl, fun _ => rfl⟩
  | error error => exact ⟨nofun, nofun⟩

theorem delete_ends {after : Option Document}
    (run : ((ofDocument settings document).delete settings skipDrain).Yields trace (left, .ok ()))
    (along : surroundings.Along (some document) trace after) :
    left = {} ∧ after = some document.deleted ∧
      agreements trace = (ofDocument settings document).assets := by
  obtain ⟨⟨now, stored, same⟩, ends⟩ := ends_of_keeps delete_ofDocument run along
  obtain ⟨rfl, agreed⟩ := Moment.mk.inj (ends rfl)
  obtain rfl := Option.some.inj stored
  exact ⟨same.trans ofDocument_deleted, rfl, agreed⟩

theorem found?_deleted : found? settings document.deleted = none := by
  rw [found?, ofDocument_deleted]
  rfl

theorem current?_fine {looking : List (Event signature)} {after : Option Document}
    {found : Except LifecycleError (Option Deployment)}
    (run : (current? settings).run.Yields looking found)
    (along : surroundings.Along (some document) looking after)
    (fine : ∀ event ∈ looking, ¬ Fails event) : found = .ok (found? settings document) := by
  obtain ⟨_, rfl⟩ := ok_of_isOk (((current?_stops settings).success_iff run).2 fine)
  rw [(current?_yields run along).2.2]

end Deployment

/-- Nothing is left to delete: no handle, nothing that a lookup finds, and nothing to be done when
the deletion is asked for again. -/
structure NothingLeft (left : Deployment) (stored : Option Document) : Prop where
  empty : left.isEmpty
  unfound : ∀ settings looking found after,
    (Deployment.current? settings).run.Yields looking found →
    surroundings.Along stored looking after → (∀ event ∈ looking, ¬ Fails event) →
      found = .ok none
  idle : ∀ settings skipDrain trace outcome,
    (left.delete settings skipDrain).Yields trace outcome ↔ trace = [] ∧ outcome = (left, .ok ())

theorem nothingLeft_deleted : NothingLeft {} (some document.deleted) where
  empty := rfl
  unfound settings looking found after run along fine := by
    rw [Deployment.current?_fine run along fine, Deployment.found?_deleted]
  idle _ _ _ _ := Iff.rfl

/-- While the store and the provider serve, a deletion fails only by what is done inside the VM, and
in a VM that nobody answers in nothing is done. What is asked of the provider then, and what is left
in the end, is up to the document alone. The clock has a reading for each deadline. -/
theorem unattended_deployment_torn_down {looking : List (Event signature)}
    {stored : Option Document}
    (found : (Deployment.current? settings).run.Yields looking (.ok (some deployment)))
    (seen : surroundings.Along (some document) looking stored) (skipDrain : Bool) :
    (∀ strategy : Strategy, strategy.ProviderServes → ∃ trace left result after past,
      (deployment.delete settings skipDrain).Yields trace (left, result) ∧
      strategy.conduct.Along (stored, []) trace (after, past) ∧
      surroundings.Along stored trace after ∧ Serving trace) ∧
    ∀ trace left result after,
      (deployment.delete settings skipDrain).Yields trace (left, result) →
      surroundings.Along stored trace after → Serving trace →
        (Unattended trace → result = .ok () ∧ providerCalls trace = deployment.providerPlan ∧
          after = some document.deleted) ∧
        (result = .ok () ↔ ∀ event ∈ guestCalls trace, ¬ Fails event) ∧
        (result = .ok () → after = some document.deleted ∧ NothingLeft left after) := by
  obtain ⟨_, rfl, same⟩ := Deployment.current?_yields found seen
  have resolved : deployment = Deployment.ofDocument settings document := by
    rw [← Deployment.found?_getD, ← same, Option.getD_some]
  subst resolved
  constructor
  · intro strategy serves
    obtain ⟨trace, ⟨left, result⟩, after, past, run, along⟩ :=
      strategy.exists_run (Deployment.delete _ settings skipDrain) (some document)
    exact ⟨trace, left, result, after, past, run, along, Strategy.along_surroundings along,
      Strategy.serving serves along⟩
  · intro trace left result after run along serving
    have success := Deployment.delete_succeeds_iff run
    refine ⟨fun unattended => ?_, success.trans (fine_iff_guestCalls serving), fun ok => ?_⟩
    · have order := Deployment.delete_vmOrder run
      obtain rfl := success.2 (order.fine_of_unattended serving unattended)
      obtain ⟨_, ends, agreed⟩ := Deployment.delete_ends run along
      have all := (deletions_eq_agreements serving).trans agreed
      exact ⟨rfl, Deployment.providerCalls_eq run all, ends⟩
    · subst ok
      obtain ⟨rfl, rfl, _⟩ := Deployment.delete_ends run along
      exact ⟨rfl, nothingLeft_deleted⟩

theorem silent_agent_torn_down : ∃ trace left result after,
    (Deployment.delete ⟨some ⟨{}, ⟨"vm-1"⟩⟩, none, none⟩ {} false).Yields trace (left, result) ∧
    surroundings.Along (some { currentVm := some ⟨"vm-1"⟩ }) trace after ∧ Serving trace ∧
    result = .ok () ∧ providerCalls trace = [.hasVm ⟨"vm-1"⟩, .delete .vm ⟨"vm-1"⟩] ∧
    after = some {} ∧ NothingLeft left after := by
  let document : Document := { currentVm := some ⟨"vm-1"⟩ }
  let deployment : Deployment := ⟨some ⟨{}, ⟨"vm-1"⟩⟩, none, none⟩
  let waiting := "Waiting for the agent on VM 'vm-1'"
  let deleting := "Deleting VM 'vm-1'"
  let unreachable := "agent unreachable after " ++ PingPolicy.standard.timeout.short
  let trace : List (Event signature) := [⟨.hasVm ⟨"vm-1"⟩, .ok true⟩, ⟨.stageBegun waiting, ()⟩,
    ⟨.now, .zero⟩, ⟨.now, .zero⟩, ⟨.now, .zero⟩, ⟨.ping PingPolicy.standard.timeout, .pending⟩,
    ⟨.now, .zero⟩, ⟨.stageEnded waiting (.skipped unreachable) .zero, ()⟩,
    ⟨.stageBegun deleting, ()⟩, ⟨.now, .zero⟩, ⟨.delete .vm ⟨"vm-1"⟩, .ok .deleted⟩,
    ⟨.store .load, .ok document⟩, ⟨.store (.save {}), .ok ()⟩, ⟨.now, .zero⟩,
    ⟨.stageEnded deleting .done .zero, ()⟩]
  have run : (deployment.delete {} false).Yields trace ({}, .ok ()) := by
    repeat refine ⟨_, _, rfl, ?_⟩
    exact ⟨rfl, rfl⟩
  have along : surroundings.Along (some document) trace (some {}) := by
    repeat refine ⟨some document, rfl, ?_⟩
    exact ⟨_, .loaded _, _, .saved _ _, _, rfl, _, rfl, rfl⟩
  have serving : Serving trace := by
    repeat refine List.forall_mem_cons.2 ⟨nofun, ?_⟩
    exact List.forall_mem_nil _
  have unanswered : ∀ event ∈ trace, ¬ IsAnsweredPing event := by
    repeat refine List.forall_mem_cons.2 ⟨id, ?_⟩
    exact List.forall_mem_nil _
  have tornDown := (unattended_deployment_torn_down Deployment.current?_lookingAt along_lookingAt
    false).2 trace {} (.ok ()) (some {}) run along serving
  obtain ⟨unattended, _, left⟩ := tornDown
  obtain ⟨ok, calls, ends⟩ := unattended (.inr unanswered)
  exact ⟨trace, {}, .ok (), some {}, run, along, serving, ok, calls, ends, (left ok).2⟩

end DeploymentLifecycle.Lifecycle
