import DeploymentLifecycle.Proofs.Lifecycle.Effects
import DeploymentLifecycle.Proofs.Lifecycle.Stages
import Mathlib.Data.List.Basic

namespace DeploymentLifecycle

section Split

variable {α : Type} {first rest early late : List α} {item : α}

/-- Where something stands in two lists that are joined. -/
theorem split_append (same : first ++ rest = early ++ item :: late) :
    (∃ between, first = early ++ item :: between ∧ late = between ++ rest) ∨
      ∃ between, early = first ++ between ∧ rest = between ++ item :: late := by
  rcases List.append_eq_append_iff.1 same with ⟨between, rfl, rfl⟩ | ⟨between, rfl, later⟩
  · exact .inr ⟨between, rfl, rfl⟩
  · cases between with
    | nil => exact .inr ⟨[], by simp, later.symm⟩
    | cons head between =>
        obtain ⟨rfl, rfl⟩ := List.cons.inj later
        exact .inl ⟨between, rfl, rfl⟩

theorem split_first (same : first ++ rest = early ++ item :: late) (absent : item ∉ rest) :
    ∃ between, first = early ++ item :: between ∧ late = between ++ rest := by
  refine (split_append same).resolve_right ?_
  rintro ⟨between, _, rfl⟩
  simp at absent

theorem split_rest (same : first ++ rest = early ++ item :: late) (absent : item ∉ first) :
    ∃ between, early = first ++ between ∧ rest = between ++ item :: late := by
  refine (split_append same).resolve_left ?_
  rintro ⟨between, rfl, _⟩
  simp at absent

end Split

namespace Lifecycle

/-! The order in which the deletion of an instance makes its calls. What is done inside the VM comes
before the VM is deleted. -/

namespace Request

def IsVmCheck : Request → Prop
  | .hasVm _ => True
  | _ => False

def IsVmDeletion : Request → Prop
  | .delete .vm _ => True
  | _ => False

/-- Requests that have to do with neither an agent nor a VM. -/
def IsApart (request : Request) : Prop :=
  ¬ request.IsAgent ∧ ¬ request.IsVmCheck ∧ ¬ request.IsVmDeletion

theorem apart_of_quiet (request : Request) (quiet : request.IsQuiet) : request.IsApart := by
  cases request <;> first | exact quiet.elim | exact ⟨id, id, id⟩

theorem agent_of_ping {request : Request} (ping : request.IsPing) : request.IsAgent := by
  cases request <;> first | exact ping.elim | trivial

/-- What goes on inside a VM, and what is said about it. -/
def IsInside (request : Request) : Prop := request.IsQuiet ∨ request.IsAgent

theorem IsInside.not_vmCheck {request : Request} (inside : request.IsInside) :
    ¬ request.IsVmCheck := by
  cases request <;> first | exact id | exact (inside.elim id id).elim

theorem IsInside.not_vmDeletion {request : Request} (inside : request.IsInside) :
    ¬ request.IsVmDeletion := by
  cases request <;> first | exact id | exact (inside.elim id id).elim

end Request

open Request

variable {trace : List (Event signature)} {target : Instance} {settings : Settings}
  {skipDrain : Bool}

/-- The VM is asked for once to be deleted, and all that is left is to record that. -/
theorem Instance.deleteVm_yields {result : Except LifecycleError Unit}
    (run : target.deleteVm.run.Yields trace result) : ∃ opening answer closing,
      trace = opening ++ ⟨.delete .vm target.vm, answer⟩ :: closing ∧
      (∀ event ∈ opening, event.request.IsQuiet) ∧ ∀ event ∈ closing, event.request.IsApart := by
  have clears : (stored CurrentVm.clear).run.Asks IsApart := stored_asks fun _ => ⟨id, id, id⟩
  cases deleteVm_stage run with
  | @told label reason started answer recorded ended outcome recording =>
      have apart : ∀ event ∈ recorded, event.request.IsApart := by
        cases recording with
        | refused error => simp
        | recorded deletion runs => exact clears.trace runs
        | unrecorded deletion runs => exact clears.trace runs
      refine ⟨[_, _], answer, recorded ++ [_, _], rfl, quiet_pair (by trivial) (by trivial), ?_⟩
      refine List.forall_mem_append.2 ⟨apart, fun event member => apart_of_quiet _ ?_⟩
      exact quiet_pair (by trivial) (by trivial) event member

/-- The ways in which an instance can be deleted, or not. -/
inductive DeletionRun (target : Instance) (skipDrain : Bool) :
    List (Event signature) → Except LifecycleError Unit → Prop
  | unasked (refusal : CloudError) :
      DeletionRun target skipDrain [⟨.hasVm target.vm, .error refusal⟩] (.error (.cloud refusal))
  | unknown {vm : List (Event signature)} {result : Except LifecycleError Unit}
      (deletion : target.deleteVm.run.Yields vm result) :
      DeletionRun target skipDrain (⟨.hasVm target.vm, .ok false⟩ :: vm) result
  | unreachable {gate vm : List (Event signature)} {result : Except LifecycleError Unit}
      (silent : Gate false gate) (deletion : target.deleteVm.run.Yields vm result) :
      DeletionRun target skipDrain (⟨.hasVm target.vm, .ok true⟩ :: (gate ++ vm)) result
  | interrupted {gate emptying : List (Event signature)} {error : LifecycleError}
      {mounted : List (Cid .disk)} (reached : Gate true gate)
      (inside : ∀ event ∈ emptying, event.request.IsInside)
      (follows : Follows (Instance.emptyingPlan skipDrain mounted) emptying (.error error)) :
      DeletionRun target skipDrain (⟨.hasVm target.vm, .ok true⟩ :: (gate ++ emptying))
        (.error error)
  | emptied {gate emptying vm : List (Event signature)} {result : Except LifecycleError Unit}
      {mounted : List (Cid .disk)} (reached : Gate true gate)
      (inside : ∀ event ∈ emptying, event.request.IsInside)
      (follows : Follows (Instance.emptyingPlan skipDrain mounted) emptying (.ok ()))
      (deletion : target.deleteVm.run.Yields vm result) :
      DeletionRun target skipDrain (⟨.hasVm target.vm, .ok true⟩ :: (gate ++ emptying ++ vm)) result

theorem Instance.empty_yields {next : Program Unit} {result : Except LifecycleError Unit}
    (run : (do target.stopJobs skipDrain; unmountDisks; next).run.Yields trace result) :
    ∃ mounted outcome emptying rest, trace = emptying ++ rest ∧
      (∀ event ∈ emptying, event.request.IsInside) ∧
      Follows (emptyingPlan skipDrain mounted) emptying outcome ∧
      match outcome with
      | .ok () => next.run.Yields rest result
      | .error error => rest = [] ∧ result = .error error := by
  have stopping : (target.stopJobs skipDrain).run.Asks IsInside :=
    stopJobs_asks (fun _ => .inl) (fun _ guest => .inr guest.1) target skipDrain
  have unmounting : unmountDisks.run.Asks IsInside :=
    unmountDisks_asks (fun _ => .inl) fun _ guest => .inr guest.1
  rcases Prog.yields_exceptBind.1 run with
    ⟨error, rfl, failing⟩ | ⟨_, stopped, late, rfl, stop, rest⟩
  · have stopCalls := stopJobs_guided trace _ failing
    exact ⟨[], .error error, trace, [], by simp, stopping.trace failing, stopCalls.fail, rfl, rfl⟩
  · have stopCalls := stopJobs_guided stopped _ stop
    have stopInside := stopping.trace stop
    rcases Prog.yields_exceptBind.1 rest with
      ⟨error, rfl, failing⟩ | ⟨_, unmounted, vm, rfl, unmount, rest⟩
    · obtain ⟨mounted, follows⟩ := unmountDisks_follows failing
      have inside := List.forall_mem_append.2 ⟨stopInside, unmounting.trace failing⟩
      exact ⟨mounted, .error error, stopped ++ late, [], by simp, inside,
        stopCalls.append follows, rfl, rfl⟩
    · obtain ⟨mounted, follows⟩ := unmountDisks_follows unmount
      have inside := List.forall_mem_append.2 ⟨stopInside, unmounting.trace unmount⟩
      exact ⟨mounted, .ok (), stopped ++ unmounted, vm, by simp, inside,
        stopCalls.append follows, rest⟩

theorem Instance.delete_yields {result : Except LifecycleError Unit}
    (run : (target.delete settings skipDrain).run.Yields trace result) :
    DeletionRun target skipDrain trace result := by
  rcases Prog.yields_exceptBind.1 run with
    ⟨error, rfl, failing⟩ | ⟨known, _, late, rfl, asking, rest⟩
  · obtain ⟨answer, asked, failed⟩ := mapError_yields failing
    obtain rfl := Prog.yields_request.1 asked
    cases answer with
    | error refusal =>
        cases failed
        exact .unasked refusal
    | ok known => cases failed
  · obtain ⟨answer, asked, succeeded⟩ := mapError_yields asking
    obtain rfl := Prog.yields_request.1 asked
    cases answer with
    | error refusal => cases succeeded
    | ok answered =>
        cases succeeded
        rw [List.singleton_append]
        cases known with
        | false => exact .unknown rest
        | true =>
            rcases Prog.yields_exceptBind.1 rest with
              ⟨error, rfl, failing⟩ | ⟨reachable, gate, late, rfl, waiting, rest⟩
            · obtain ⟨_, failed, _⟩ := awaitAgent_yields failing
              cases failed
            · obtain ⟨_, same, waited⟩ := awaitAgent_yields waiting
              cases same
              cases reachable with
              | false => exact .unreachable waited rest
              | true =>
                  obtain ⟨mounted, outcome, emptying, vm, rfl, inside, follows, rest⟩ :=
                    empty_yields rest
                  cases outcome with
                  | error error =>
                      obtain ⟨rfl, rfl⟩ := rest
                      rw [List.append_nil]
                      exact .interrupted waited inside follows
                  | ok _ =>
                      rw [← List.append_assoc]
                      exact .emptied waited inside follows rest

def IsUnknown : Event signature → Prop
  | ⟨.hasVm _, .ok false⟩ => True
  | _ => False

theorem not_unknown {event : Event signature} (other : ¬ IsVmCheck event.request) :
    ¬ IsUnknown event := by
  obtain ⟨request, answer⟩ := event
  cases request <;> first | exact (other trivial).elim | exact id

theorem Instance.deleteVm_calls {result : Except LifecycleError Unit}
    (run : target.deleteVm.run.Yields trace result) :
    ∀ event ∈ trace, ¬ IsAgent event.request ∧ ¬ IsVmCheck event.request := by
  have quietApart : ∀ request : Request, request.IsQuiet →
      ¬ request.IsAgent ∧ ¬ request.IsVmCheck :=
    fun request quiet => (apart_of_quiet request quiet).imp_right And.left
  have asks : target.deleteVm.run.Asks
      fun request : Request => ¬ request.IsAgent ∧ ¬ request.IsVmCheck :=
    deleteVm_asks quietApart (fun _ => ⟨id, id⟩) target ⟨id, id⟩
  exact asks.trace run

namespace Gate

variable {reachable : Bool} {gate : List (Event signature)}

theorem inside (waited : Gate reachable gate) : ∀ event ∈ gate, IsInside event.request := by
  intro event member
  rcases waited.calls event member with quiet | ping
  · exact .inl quiet
  · exact .inr (agent_of_ping ping)

theorem guestCalls_eq (waited : Gate reachable gate) : guestCalls gate = [] := by
  refine guestCalls_eq_nil fun event member guest => ?_
  rcases waited.calls event member with quiet | ping
  · exact not_guest_of_quiet quiet guest
  · exact guest.2 ping

end Gate

@[simp]
theorem guestCalls_hasVm {vm : Cid .vm} {known : Except CloudError Bool} :
    guestCalls (⟨.hasVm vm, known⟩ :: trace) = guestCalls trace :=
  guestCalls_cons_of_not fun guest => guest.1

theorem guestCalls_of_quiet (quiet : ∀ event ∈ trace, IsQuiet event.request) :
    guestCalls trace = [] :=
  guestCalls_eq_nil fun event member => not_guest_of_quiet (quiet event member)

theorem not_answeredPing {event : Event signature} (other : ¬ IsAgent event.request) :
    ¬ IsAnsweredPing event := by
  obtain ⟨request, answer⟩ := event
  cases request <;> first | exact (other trivial).elim | exact id

namespace DeletionRun

variable {result : Except LifecycleError Unit} {vm : List (Event signature)}

/-- The provider is asked once whether it knows the VM, before anything else. -/
theorem checks (run : DeletionRun target skipDrain trace result) : ∃ known rest,
    trace = ⟨.hasVm target.vm, known⟩ :: rest ∧ ∀ event ∈ rest, ¬ IsVmCheck event.request := by
  have gateFree : ∀ {reachable : Bool} {gate : List (Event signature)}, Gate reachable gate →
      ∀ event ∈ gate, ¬ IsVmCheck event.request :=
    fun waited event member => (waited.inside event member).not_vmCheck
  have vmFree : ∀ {vm : List (Event signature)}, target.deleteVm.run.Yields vm result →
      ∀ event ∈ vm, ¬ IsVmCheck event.request :=
    fun deletion event member => (Instance.deleteVm_calls deletion event member).2
  cases run with
  | unasked refusal => exact ⟨_, [], rfl, by simp⟩
  | unknown deletion => exact ⟨_, _, rfl, vmFree deletion⟩
  | unreachable silent deletion =>
      exact ⟨_, _, rfl, List.forall_mem_append.2 ⟨gateFree silent, vmFree deletion⟩⟩
  | interrupted reached inside follows =>
      have within := fun event member => (inside event member).not_vmCheck
      exact ⟨_, _, rfl, List.forall_mem_append.2 ⟨gateFree reached, within⟩⟩
  | emptied reached inside follows deletion =>
      have within := fun event member => (inside event member).not_vmCheck
      have before := List.forall_mem_append.2 ⟨gateFree reached, within⟩
      exact ⟨_, _, rfl, List.forall_mem_append.2 ⟨before, vmFree deletion⟩⟩

theorem not_agent_of_unknown (run : DeletionRun target skipDrain trace result)
    (unknown : ∃ event ∈ trace, IsUnknown event) : ∀ event ∈ trace, ¬ IsAgent event.request := by
  obtain ⟨known, rest, same, free⟩ := run.checks
  obtain ⟨event, member, unknown⟩ := unknown
  rw [same] at member
  rcases List.mem_cons.1 member with rfl | later
  · cases run with
    | unasked refusal => exact List.forall_mem_singleton.2 id
    | unknown deletion =>
        have vmCalls := Instance.deleteVm_calls deletion
        exact List.forall_mem_cons.2 ⟨id, fun event member => (vmCalls event member).1⟩
    | unreachable | interrupted | emptied =>
        cases same
        exact unknown.elim
  · exact absurd unknown (not_unknown (free event later))

theorem ping_of_unanswered (run : DeletionRun target skipDrain trace result)
    (unanswered : ∀ event ∈ trace, ¬ IsAnsweredPing event) :
    ∀ event ∈ trace, IsAgent event.request → IsPing event.request := by
  cases run with
  | unasked refusal => exact List.forall_mem_singleton.2 fun agent => agent.elim
  | unknown deletion =>
      refine List.forall_mem_cons.2 ⟨fun agent => agent.elim, fun event member agent => ?_⟩
      exact absurd agent (Instance.deleteVm_calls deletion event member).1
  | unreachable silent deletion =>
      refine List.forall_mem_cons.2 ⟨fun agent => agent.elim, List.forall_mem_append.2 ⟨?_, ?_⟩⟩
      · intro event member agent
        exact (silent.calls event member).resolve_left fun quiet => (apart_of_quiet _ quiet).1 agent
      · intro event member agent
        exact absurd agent (Instance.deleteVm_calls deletion event member).1
  | interrupted reached inside follows =>
      obtain ⟨event, member, answered⟩ := reached.answered.1 rfl
      exact absurd answered (unanswered event (by simp [member]))
  | emptied reached inside follows deletion =>
      obtain ⟨event, member, answered⟩ := reached.answered.1 rfl
      exact absurd answered (unanswered event (by simp [member]))

/-- The VM is deleted behind what does not delete it. -/
theorem split_deletion {before : List (Event signature)}
    (free : ∀ event ∈ before, ¬ IsVmDeletion event.request)
    (deletion : target.deleteVm.run.Yields vm result) : ∃ opening answer closing,
      before ++ vm = before ++ opening ++ ⟨.delete .vm target.vm, answer⟩ :: closing ∧
      (∀ event ∈ opening, IsQuiet event.request) ∧
      (∀ event ∈ before ++ opening, ¬ IsVmDeletion event.request) ∧
      ∀ event ∈ closing, IsApart event.request := by
  obtain ⟨opening, answer, closing, rfl, opens, closes⟩ := Instance.deleteVm_yields deletion
  have openFree : ∀ event ∈ opening, ¬ IsVmDeletion event.request :=
    fun event opened => (apart_of_quiet _ (opens event opened)).2.2
  exact ⟨opening, answer, closing, (List.append_assoc ..).symm, opens,
    List.forall_mem_append.2 ⟨free, openFree⟩, closes⟩

theorem free_behind_check {known : Except CloudError Bool} {inside : List (Event signature)}
    (within : ∀ event ∈ inside, IsInside event.request) :
    ∀ event ∈ ⟨.hasVm target.vm, known⟩ :: inside, ¬ IsVmDeletion event.request :=
  List.forall_mem_cons.2 ⟨id, fun event member => (within event member).not_vmDeletion⟩

/-- If the VM is asked to be deleted, it is after everything that had to be done in it, and before
everything that has not to do with it. -/
theorem splits (run : DeletionRun target skipDrain trace result) :
    (∀ event ∈ trace, ¬ IsVmDeletion event.request) ∨ ∃ before answer closing,
      trace = before ++ ⟨.delete .vm target.vm, answer⟩ :: closing ∧
      (∀ event ∈ before, ¬ IsVmDeletion event.request) ∧
      (∀ event ∈ closing, IsApart event.request) ∧
      ((∃ event ∈ before, IsAnsweredPing event) →
        ∃ mounted, guestCalls before = Instance.emptyingPlan skipDrain mounted) := by
  cases run with
  | unasked refusal => exact .inl (List.forall_mem_singleton.2 id)
  | unknown deletion =>
      obtain ⟨opening, answer, closing, whole, opens, free, closes⟩ :=
        split_deletion (free_behind_check (List.forall_mem_nil _)) deletion
      refine .inr ⟨_, answer, closing, whole, free, closes, ?_⟩
      intro found
      obtain ⟨event, member, answered⟩ := found
      rcases List.mem_cons.1 member with rfl | opened
      · exact answered.elim
      · exact absurd answered (not_answeredPing_of_quiet (opens event opened))
  | @unreachable gate _ _ silent deletion =>
      obtain ⟨opening, answer, closing, whole, opens, free, closes⟩ :=
        split_deletion (free_behind_check silent.inside) deletion
      refine .inr ⟨_, answer, closing, whole, free, closes, ?_⟩
      intro found
      obtain ⟨event, member, answered⟩ := found
      rcases List.mem_cons.1 member with rfl | later
      · exact answered.elim
      · rcases List.mem_append.1 later with waited | opened
        · exact absurd (silent.answered.2 ⟨event, waited, answered⟩) Bool.false_ne_true
        · exact absurd answered (not_answeredPing_of_quiet (opens event opened))
  | interrupted reached inside follows =>
      exact .inl (free_behind_check (List.forall_mem_append.2 ⟨reached.inside, inside⟩))
  | @emptied gate emptying _ _ mounted reached inside follows deletion =>
      obtain ⟨opening, answer, closing, whole, opens, free, closes⟩ :=
        split_deletion (free_behind_check (List.forall_mem_append.2 ⟨reached.inside, inside⟩))
          deletion
      have calls : guestCalls (⟨.hasVm target.vm, .ok true⟩ :: (gate ++ emptying) ++ opening) =
          Instance.emptyingPlan skipDrain mounted := by
        have within : guestCalls emptying = Instance.emptyingPlan skipDrain mounted := follows
        simp [reached.guestCalls_eq, within, guestCalls_of_quiet opens]
      exact .inr ⟨_, answer, closing, whole, free, closes, fun _ => ⟨mounted, calls⟩⟩

theorem splits_at {early late : List (Event signature)} {vm : Cid .vm}
    {answer : Except CloudError Deletion}
    (run : DeletionRun target skipDrain (early ++ ⟨.delete .vm vm, answer⟩ :: late) result) :
    (∀ event ∈ late, IsApart event.request) ∧ ((∃ event ∈ early, IsAnsweredPing event) →
      ∃ mounted, guestCalls early = Instance.emptyingPlan skipDrain mounted) := by
  rcases run.splits with free | ⟨before, told, closing, same, beforeFree, closes, emptied⟩
  · exact (free ⟨.delete .vm vm, answer⟩ (by simp) trivial).elim
  · have notBefore : ⟨.delete .vm vm, answer⟩ ∉ before :=
      fun member => beforeFree _ member trivial
    have notAfter : ⟨.delete .vm vm, answer⟩ ∉ closing :=
      fun member => (closes _ member).2.2 trivial
    -- There is no second deletion of a VM, so both ways to cut the trace are the same.
    obtain ⟨rfl, _, rfl⟩ := (List.append_cons_inj_of_notMem notBefore notAfter).1 same.symm
    exact ⟨closes, emptied⟩

theorem planned (run : DeletionRun target skipDrain trace result) : ∃ mounted,
    (guestCalls trace).map (·.request) <+:
      (Instance.emptyingPlan skipDrain mounted).map (·.request) := by
  have vmCalls : ∀ {vm : List (Event signature)}, target.deleteVm.run.Yields vm result →
      guestCalls vm = [] :=
    fun deletion => guestCalls_eq_nil fun event member guest =>
      (Instance.deleteVm_calls deletion event member).1 guest.1
  cases run with
  | unasked refusal => exact ⟨[], List.nil_prefix⟩
  | unknown deletion =>
      refine ⟨[], ?_⟩
      rw [guestCalls_hasVm, vmCalls deletion]
      exact List.nil_prefix
  | unreachable silent deletion =>
      refine ⟨[], ?_⟩
      rw [guestCalls_hasVm, guestCalls_append, silent.guestCalls_eq, vmCalls deletion]
      exact List.nil_prefix
  | @interrupted _ emptying _ mounted reached inside follows =>
      refine ⟨mounted, ?_⟩
      rw [guestCalls_hasVm, guestCalls_append, reached.guestCalls_eq, List.nil_append]
      exact follows.begins
  | @emptied _ emptying _ _ mounted reached inside follows deletion =>
      refine ⟨mounted, ?_⟩
      rw [guestCalls_hasVm, guestCalls_append, guestCalls_append, reached.guestCalls_eq,
        vmCalls deletion, List.nil_append, List.append_nil]
      exact follows.begins

end DeletionRun

structure VmOrder (skipDrain : Bool) (trace : List (Event signature)) : Prop where
  unknown : (∃ event ∈ trace, IsUnknown event) → ∀ event ∈ trace, ¬ IsAgent event.request
  unanswered : (∀ event ∈ trace, ¬ IsAnsweredPing event) →
    ∀ event ∈ trace, IsAgent event.request → IsPing event.request
  emptied : ∀ early vm answer late, trace = early ++ ⟨.delete .vm vm, answer⟩ :: late →
    (∃ event ∈ trace, IsAnsweredPing event) →
      ∃ mounted, guestCalls early = Instance.emptyingPlan skipDrain mounted
  last : ∀ early vm answer late, trace = early ++ ⟨.delete .vm vm, answer⟩ :: late →
    ∀ event ∈ late, ¬ IsAgent event.request
  planned : ∃ mounted, (guestCalls trace).map (·.request) <+:
    (Instance.emptyingPlan skipDrain mounted).map (·.request)

namespace VmOrder

theorem nil : VmOrder skipDrain [] where
  unknown := by simp
  unanswered := by simp
  emptied := by simp
  last := by simp
  planned := ⟨[], List.nil_prefix⟩

theorem of_run {result : Except LifecycleError Unit}
    (run : DeletionRun target skipDrain trace result) : VmOrder skipDrain trace where
  unknown := run.not_agent_of_unknown
  unanswered := run.ping_of_unanswered
  emptied early vm answer late same := by
    subst same
    obtain ⟨apart, emptied⟩ := run.splits_at
    intro found
    obtain ⟨event, member, answered⟩ := found
    rcases List.mem_append.1 member with earlier | later
    · exact emptied ⟨event, earlier, answered⟩
    · rcases List.mem_cons.1 later with rfl | last
      · exact answered.elim
      · exact absurd answered (not_answeredPing (apart event last).1)
  last early vm answer late same := by
    subst same
    exact fun event member => (run.splits_at.1 event member).1
  planned := run.planned

theorem append {rest : List (Event signature)} (order : VmOrder skipDrain trace)
    (apart : ∀ event ∈ rest, IsApart event.request) : VmOrder skipDrain (trace ++ rest) := by
  have restAgent : ∀ event ∈ rest, ¬ IsAgent event.request :=
    fun event later => (apart event later).1
  constructor
  · intro found
    obtain ⟨event, member, unknown⟩ := found
    have first : event ∈ trace := by
      rcases List.mem_append.1 member with earlier | later
      · exact earlier
      · exact absurd unknown (not_unknown (apart event later).2.1)
    exact List.forall_mem_append.2 ⟨order.unknown ⟨event, first, unknown⟩, restAgent⟩
  · intro unanswered
    rw [List.forall_mem_append] at unanswered
    refine List.forall_mem_append.2 ⟨order.unanswered unanswered.1, fun event later agent => ?_⟩
    exact absurd agent (restAgent event later)
  · intro early vm answer late same found
    obtain ⟨event, member, answered⟩ := found
    obtain ⟨between, within, _⟩ := split_first same fun later => (apart _ later).2.2 trivial
    have first : event ∈ trace := by
      rcases List.mem_append.1 member with earlier | later
      · exact earlier
      · exact absurd answered (not_answeredPing (restAgent event later))
    exact order.emptied early vm answer between within ⟨event, first, answered⟩
  · intro early vm answer late same
    obtain ⟨between, within, rfl⟩ := split_first same fun later => (apart _ later).2.2 trivial
    exact List.forall_mem_append.2 ⟨order.last early vm answer between within, restAgent⟩
  · have none : guestCalls rest = [] :=
      guestCalls_eq_nil fun event later guest => restAgent event later guest.1
    rw [guestCalls_append, none, List.append_nil]
    exact order.planned

end VmOrder

end Lifecycle

end DeploymentLifecycle
