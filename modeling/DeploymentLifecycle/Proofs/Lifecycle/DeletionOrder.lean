import DeploymentLifecycle.Proofs.Lifecycle.InstanceDeletion

namespace DeploymentLifecycle.Lifecycle

/-! The order in which the deletion of a deployment makes its calls. The VM goes before the disk,
and the disk before the stemcell. -/

open Store (content)
open Request

variable {trace : List (Event signature)} {target : Instance} {settings : Settings}
  {skipDrain : Bool}

theorem Instance.delete_other {resource : Resource} (other : resource ≠ .vm) :
    (target.delete settings skipDrain).run.Asks fun request : Request =>
      ∀ cid, request ≠ .delete resource cid := by
  apply delete_asks
  · intro request quiet cid same
    subst same
    exact quiet
  · exact fun _ _ => nofun
  · exact fun _ _ => nofun
  · intro request guest cid same
    subst same
    exact guest.1
  · exact fun _ => nofun
  · intro cid same
    exact other (by cases same; rfl)

section Release

variable {kind : Kind} (record : Record kind)

theorem releaseCurrent_apart : (releaseCurrent record).run.Asks IsApart := by
  refine releaseCurrent_asks apart_of_quiet (fun _ => ⟨id, id, id⟩) record fun cid => ?_
  cases kind <;> exact ⟨id, id, id⟩

theorem releaseCurrent_other {resource : Resource} (other : resource ≠ kind.resource) :
    (releaseCurrent record).run.Asks fun request : Request =>
      ∀ cid, request ≠ .delete resource cid := by
  apply releaseCurrent_asks
  · intro request quiet cid same
    subst same
    exact quiet
  · exact fun _ _ => nofun
  · intro found cid same
    exact other (by cases same; rfl)

end Release

namespace Deployment

variable {deployment left : Deployment} {result : Except LifecycleError Unit} {α : Type}
  {handle leftover : Option α} {delete : α → Program Unit}

/-- What became of a handle: there was none, or what it is of was deleted. -/
def Consumed (handle : Option α) (delete : α → Program Unit) (trace : List (Event signature))
    (result : Except LifecycleError Unit) : Prop :=
  (handle = none ∧ trace = [] ∧ result = .ok ()) ∨
    ∃ held, handle = some held ∧ (delete held).run.Yields trace result

theorem consume_yields (run : (consume handle delete).Yields trace (leftover, result)) :
    Consumed handle delete trace result ∧ leftover = if result.isOk then none else handle := by
  cases handle with
  | none =>
      obtain ⟨rfl, same⟩ := run
      cases same
      exact ⟨.inl ⟨rfl, rfl, rfl⟩, rfl⟩
  | some held =>
      obtain ⟨outcome, first, rest, rfl, deleting, ending⟩ := Prog.yields_bind.1 run
      cases outcome with
      | ok _ =>
          obtain ⟨rfl, same⟩ := ending
          cases same
          rw [List.append_nil]
          exact ⟨.inr ⟨held, rfl, deleting⟩, rfl⟩
      | error error =>
          obtain ⟨rfl, same⟩ := ending
          cases same
          rw [List.append_nil]
          exact ⟨.inr ⟨held, rfl, deleting⟩, rfl⟩

theorem calls_of_consumed {only : Request → Prop}
    (consumed : trace = [] ∨ ∃ outcome, Consumed handle delete trace outcome)
    (asks : ∀ held, (delete held).run.Asks only) : ∀ event ∈ trace, only event.request := by
  rcases consumed with rfl | ⟨outcome, ⟨_, rfl, _⟩ | ⟨held, _, run⟩⟩
  · simp
  · simp
  · exact (asks held).trace run

/-- How far the deletion of a deployment gets, and what is left of the deployment then. -/
inductive Dismantled (deployment : Deployment) (settings : Settings) (skipDrain : Bool) :
    List (Event signature) → Deployment → Except LifecycleError Unit → Prop
  | atInstance {vm : List (Event signature)} {error : LifecycleError}
      (vmRun : Consumed deployment.vmInstance (·.delete settings skipDrain) vm (.error error)) :
      Dismantled deployment settings skipDrain vm deployment (.error error)
  | atDisk {vm disk : List (Event signature)} {error : LifecycleError}
      (vmRun : Consumed deployment.vmInstance (·.delete settings skipDrain) vm (.ok ()))
      (diskRun : Consumed deployment.disk releaseCurrent disk (.error error)) :
      Dismantled deployment settings skipDrain (vm ++ disk)
        { deployment with vmInstance := none } (.error error)
  | atStemcell {vm disk stemcell : List (Event signature)} {error : LifecycleError}
      (vmRun : Consumed deployment.vmInstance (·.delete settings skipDrain) vm (.ok ()))
      (diskRun : Consumed deployment.disk releaseCurrent disk (.ok ()))
      (stemcellRun : Consumed deployment.stemcell releaseCurrent stemcell (.error error)) :
      Dismantled deployment settings skipDrain (vm ++ (disk ++ stemcell))
        { stemcell := deployment.stemcell } (.error error)
  | complete {vm disk stemcell : List (Event signature)}
      (vmRun : Consumed deployment.vmInstance (·.delete settings skipDrain) vm (.ok ()))
      (diskRun : Consumed deployment.disk releaseCurrent disk (.ok ()))
      (stemcellRun : Consumed deployment.stemcell releaseCurrent stemcell (.ok ())) :
      Dismantled deployment settings skipDrain (vm ++ (disk ++ stemcell)) {} (.ok ())

theorem delete_dismantles
    (run : (deployment.delete settings skipDrain).Yields trace (left, result)) :
    Dismantled deployment settings skipDrain trace left result := by
  obtain ⟨⟨_, vmOutcome⟩, vm, _, rfl, deleting, goesOn⟩ := Prog.yields_bind.1 run
  obtain ⟨vmRun, rfl⟩ := consume_yields deleting
  cases vmOutcome with
  | error error =>
      obtain ⟨rfl, same⟩ := goesOn
      cases same
      rw [List.append_nil]
      exact .atInstance vmRun
  | ok _ =>
      obtain ⟨⟨_, diskOutcome⟩, disk, _, rfl, releasing, goesOn⟩ := Prog.yields_bind.1 goesOn
      obtain ⟨diskRun, rfl⟩ := consume_yields releasing
      cases diskOutcome with
      | error error =>
          obtain ⟨rfl, same⟩ := goesOn
          cases same
          rw [List.append_nil]
          exact .atDisk vmRun diskRun
      | ok _ =>
          obtain ⟨⟨_, outcome⟩, stemcell, _, rfl, releasing, rfl, same⟩ :=
            Prog.yields_bind.1 goesOn
          obtain ⟨stemcellRun, rfl⟩ := consume_yields releasing
          cases same
          rw [List.append_nil]
          cases result with
          | error error => exact .atStemcell vmRun diskRun stemcellRun
          | ok _ => exact .complete vmRun diskRun stemcellRun

/-- A deletion is one of the instance, then a release of the disk and then one of the stemcell, of
which the later ones may be missing. -/
theorem delete_yields (run : (deployment.delete settings skipDrain).Yields trace (left, result)) :
    ∃ vm disk stemcell, trace = vm ++ (disk ++ stemcell) ∧
      (∃ outcome, Consumed deployment.vmInstance (·.delete settings skipDrain) vm outcome) ∧
      (disk = [] ∨ ∃ outcome, Consumed deployment.disk releaseCurrent disk outcome) ∧
      (stemcell = [] ∨ (Consumed deployment.disk releaseCurrent disk (.ok ()) ∧
        ∃ outcome, Consumed deployment.stemcell releaseCurrent stemcell outcome)) := by
  cases delete_dismantles run with
  | atInstance vmRun => exact ⟨trace, [], [], by simp, ⟨_, vmRun⟩, .inl rfl, .inl rfl⟩
  | @atDisk vm disk _ vmRun diskRun =>
      exact ⟨vm, disk, [], by simp, ⟨_, vmRun⟩, .inr ⟨_, diskRun⟩, .inl rfl⟩
  | @atStemcell vm disk stemcell _ vmRun diskRun stemcellRun =>
      exact ⟨vm, disk, stemcell, rfl, ⟨_, vmRun⟩, .inr ⟨_, diskRun⟩,
        .inr ⟨diskRun, _, stemcellRun⟩⟩
  | @complete vm disk stemcell vmRun diskRun stemcellRun =>
      exact ⟨vm, disk, stemcell, rfl, ⟨_, vmRun⟩, .inr ⟨_, diskRun⟩,
        .inr ⟨diskRun, _, stemcellRun⟩⟩

/-- The VM of the deployment, if it has one, is deleted and not recorded as current any more. -/
def VmGone (deployment : Deployment) (moment : Moment) : Prop :=
  ∀ target, deployment.vmInstance = some target →
    ⟨.vm, target.vm⟩ ∈ moment.agreed ∧ (content moment.stored).currentVm = none

theorem VmGone.unconcerned : Unconcerned (VmGone deployment) where
  load gone finds target held := ⟨(gone target held).1, finds.currentVm.trans (gone target held).2⟩
  agree gone target held := ⟨List.mem_append_left _ (gone target held).1, (gone target held).2⟩
  erase gone target held :=
    ⟨(gone target held).1, Document.currentVm_withInventory.trans (gone target held).2⟩

def mayDeleteLast (deployment : Deployment) (moment : Moment) :
    (resource : Resource) → Cid resource → Prop
  | .vm, _ => True
  | _, _ => VmGone deployment moment

theorem delete_keeps_vmGone (deployment : Deployment) (settings : Settings) (skipDrain : Bool)
    (stored : Option Document) : (deployment.delete settings skipDrain).Keeps
      (terms deployment.mayDeleteLast) ⟨stored, []⟩ fun _ _ => True := by
  have allowed : ∀ {kind : Kind} moment cid, VmGone deployment moment →
      deployment.mayDeleteLast moment kind.resource cid := by
    intro kind moment cid gone
    cases kind <;> exact gone
  apply delete_keeps (VmGone deployment) (VmGone deployment)
  · intro absent target held
    cases absent.symm.trans held
  · intro target held
    apply Instance.delete_keeps trivial (fun _ => trivial) fun _ => trivial
    intro document finds other same
    obtain rfl := Option.some.inj (held.symm.trans same)
    exact ⟨by simp, rfl⟩
  · exact fun _ gone _ => gone
  · exact fun now record gone _ => (VmGone.unconcerned.releaseCurrent allowed gone).byResult
      (fun _ _ ends => ends) fun _ _ _ => trivial
  · exact fun _ _ _ => trivial
  · exact fun now record gone _ => (VmGone.unconcerned.releaseCurrent allowed gone).byResult
      (fun _ _ _ => trivial) fun _ _ _ => trivial

end Deployment

/-- The order of a deletion, whatever the provider, the agent, the clock and the store do. -/
theorem deletion_order {deployment left : Deployment} {result : Except LifecycleError Unit}
    {stored after : Option Document}
    (run : (deployment.delete settings skipDrain).Yields trace (left, result))
    (along : surroundings.Along stored trace after) :
    -- A VM that the provider does not know is deleted without a word to its agent.
    (∀ vm, ⟨.hasVm vm, .ok false⟩ ∈ trace → ∀ event ∈ trace, ¬ IsAgent event.request) ∧
    -- An agent that does not answer gets nothing but pings.
    ((∀ event ∈ trace, ¬ IsAnsweredPing event) →
      ∀ event ∈ trace, IsAgent event.request → IsPing event.request) ∧
    -- If it answers, all that is planned is done, and succeeds, before the VM is deleted, and
    -- nothing after.
    (∀ early vm answer late, trace = early ++ ⟨.delete .vm vm, answer⟩ :: late →
      ((∃ event ∈ trace, IsAnsweredPing event) →
        ∃ mounted, guestCalls early = Instance.emptyingPlan skipDrain mounted) ∧
      ∀ event ∈ late, ¬ IsAgent event.request) ∧
    -- However far the deletion gets, the calls of the agent are a beginning of the plan.
    (∃ mounted, (guestCalls trace).map (·.request) <+:
      (Instance.emptyingPlan skipDrain mounted).map (·.request)) ∧
    (∀ early cid answer late now, trace = early ++ ⟨.delete .disk cid, answer⟩ :: late →
      surroundings.Along stored early now → ∀ target, deployment.vmInstance = some target →
        (∃ deletion, ⟨.delete .vm target.vm, .ok deletion⟩ ∈ early) ∧
          (content now).currentVm = none) ∧
    (∀ early cid answer late, trace = early ++ ⟨.delete .stemcell cid, answer⟩ :: late →
      ∀ record, deployment.disk = some record → ∃ before released between,
        early = before ++ released ++ between ∧
          (releaseCurrent record).run.Yields released (.ok ())) ∧
    -- After a failure there is nothing left but to report it.
    ∀ early event late, trace = early ++ event :: late → Fails event →
      ∀ later ∈ late, IsQuiet later.request := by
  have stops := deployment.delete_stops settings skipDrain
  have vmFirst := deployment.delete_keeps_vmGone settings skipDrain stored
  obtain ⟨vm, disk, stemcell, rfl, vmRun, diskRun, stemcellRun⟩ := Deployment.delete_yields run
  have diskApart := Deployment.calls_of_consumed diskRun releaseCurrent_apart
  have stemcellApart :=
    Deployment.calls_of_consumed (stemcellRun.imp_right And.right) releaseCurrent_apart
  have vmOrder : VmOrder skipDrain vm := by
    rcases vmRun with ⟨outcome, ⟨_, rfl, _⟩ | ⟨target, _, deletion⟩⟩
    · exact VmOrder.nil
    · exact VmOrder.of_run (Instance.delete_yields deletion)
  have order := vmOrder.append (List.forall_mem_append.2 ⟨diskApart, stemcellApart⟩)
  have vmOther : ∀ event ∈ vm, ∀ cid, event.request ≠ Request.delete .stemcell cid :=
    Deployment.calls_of_consumed (.inr vmRun) fun _ => Instance.delete_other (by decide)
  have diskOther : ∀ event ∈ disk, ∀ cid, event.request ≠ Request.delete .stemcell cid :=
    Deployment.calls_of_consumed diskRun fun _ => releaseCurrent_other _ (by decide)
  refine ⟨fun _ unknown => order.unknown ⟨_, unknown, trivial⟩, order.unanswered, ?_,
    order.planned, ?_, ?_, ?_⟩
  · intro early vm answer late same
    exact ⟨order.emptied early vm answer late same, order.last early vm answer late same⟩
  · intro early cid answer late now same earlier target held
    rw [same] at run
    have gone : deployment.VmGone ⟨now, agreements early⟩ := mayDelete_of_keeps vmFirst run earlier
    obtain ⟨agreed, cleared⟩ := gone target held
    exact ⟨mem_agreements.1 agreed, cleared⟩
  · intro early cid answer late same record held
    rw [← List.append_assoc] at same
    have absent : ⟨.delete .stemcell cid, answer⟩ ∉ vm ++ disk := fun member =>
      List.forall_mem_append.2 ⟨vmOther, diskOther⟩ _ member cid rfl
    obtain ⟨between, rfl, within⟩ := split_rest same absent
    rcases stemcellRun with rfl | ⟨⟨none, _⟩ | ⟨released, found, releasing⟩, _⟩
    · simp at within
    · cases none.symm.trans held
    · obtain rfl := Option.some.inj (held.symm.trans found)
      exact ⟨vm, disk, between, rfl, releasing⟩
  · intro early event late same fails
    rw [same] at run
    exact stops.tidy_of_fails run fails

theorem vm_emptied_before_deletion : ∃ early late left after,
    (Deployment.delete ⟨some ⟨{}, ⟨"vm-1"⟩⟩, none, none⟩ {} false).Yields
      (early ++ ⟨.delete .vm ⟨"vm-1"⟩, .ok .deleted⟩ :: late) (left, .ok ()) ∧
    surroundings.Along (some { currentVm := some ⟨"vm-1"⟩ })
      (early ++ ⟨.delete .vm ⟨"vm-1"⟩, .ok .deleted⟩ :: late) after ∧
    ∃ mounted, guestCalls early = Instance.emptyingPlan false mounted := by
  let document : Document := { currentVm := some ⟨"vm-1"⟩ }
  let target : Instance := ⟨{}, ⟨"vm-1"⟩⟩
  let deployment : Deployment := ⟨some target, none, none⟩
  let stage (label : String) (work : List (Event signature)) : List (Event signature) :=
    [⟨.stageBegun label, ()⟩, ⟨.now, .zero⟩] ++ work ++
      [⟨.now, .zero⟩, ⟨.stageEnded label .done .zero, ()⟩]
  let early : List (Event signature) :=
    [⟨.hasVm ⟨"vm-1"⟩, .ok true⟩] ++
    stage ("Waiting for the agent on VM '" ++ target.vm.text ++ "'")
      [⟨.now, .zero⟩, ⟨.now, .zero⟩, ⟨.ping PingPolicy.standard.timeout, .answered "pong"⟩] ++
    stage (target.labelled "Running the pre-stop scripts") [⟨.runScript "pre-stop" [], .ok ()⟩] ++
    stage (target.labelled "Draining jobs on instance") [⟨.drain drainReason, .ok ()⟩] ++
    stage (target.labelled "Stopping jobs on instance") [⟨.stop, .ok ()⟩] ++
    stage (target.labelled "Running the post-stop scripts") [⟨.runScript "post-stop" [], .ok ()⟩] ++
    [⟨.listDisk, .ok [⟨"disk-1"⟩]⟩] ++
    stage "Unmounting disk 'disk-1'" [⟨.unmountDisk ⟨"disk-1"⟩, .ok ()⟩] ++
    [⟨.stageBegun "Deleting VM 'vm-1'", ()⟩, ⟨.now, .zero⟩]
  let late : List (Event signature) := [⟨.store .load, .ok document⟩, ⟨.store (.save {}), .ok ()⟩,
    ⟨.now, .zero⟩, ⟨.stageEnded "Deleting VM 'vm-1'" .done .zero, ()⟩]
  have run : (deployment.delete {} false).Yields
      (early ++ ⟨.delete .vm ⟨"vm-1"⟩, .ok .deleted⟩ :: late) ({}, .ok ()) := by
    repeat refine ⟨_, _, rfl, ?_⟩
    exact ⟨rfl, rfl⟩
  have along : surroundings.Along (some document)
      (early ++ ⟨.delete .vm ⟨"vm-1"⟩, .ok .deleted⟩ :: late) (some {}) := by
    repeat refine ⟨some document, rfl, ?_⟩
    exact ⟨_, .loaded _, _, .saved _ _, _, rfl, _, rfl, rfl⟩
  have order := (deletion_order run along).2.2.1 early ⟨"vm-1"⟩ (.ok .deleted) late rfl
  have answered : ⟨.ping PingPolicy.standard.timeout, .answered "pong"⟩ ∈ early := by
    simp [early, stage]
  have emptied := order.1 ⟨_, List.mem_append_left _ answered, trivial⟩
  exact ⟨early, late, {}, some {}, run, along, emptied⟩

end DeploymentLifecycle.Lifecycle
