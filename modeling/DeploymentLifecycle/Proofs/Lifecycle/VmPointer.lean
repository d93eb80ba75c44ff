import DeploymentLifecycle.Proofs.Lifecycle.Operation
import DeploymentLifecycle.Proofs.Lifecycle.Provider

namespace DeploymentLifecycle.Lifecycle

/-! What becomes of the pointer to the current VM. Deleting an instance clears it whichever VM it
names by then, so it says nothing about a VM that became current after the instance was looked
up. -/

open Store (Finds content)

def Operation.vm? : Operation → Option (Cid .vm)
  | .delete deployment _ => deployment.vmInstance.map (·.vm)
  | .deleteInstance target _ => some target.vm
  | _ => none

/-- How an operation that began with this pointer leaves it. Only one that has a VM to delete may
clear the pointer, and does so when it succeeds. -/
inductive Pointer (current vm? : Option (Cid .vm)) (result : Except LifecycleError Unit)
    (moment : Moment) : Prop
  | kept (same : (content moment.stored).currentVm = current) (idle : result = .ok () → vm? = none)
  | cleared {vm : Cid .vm} (gone : (content moment.stored).currentVm = none)
      (handle : vm? = some vm) (agreed : ⟨.vm, vm⟩ ∈ moment.agreed)

namespace Pointer

variable {current vm? : Option (Cid .vm)} {result : Except LifecycleError Unit} {moment : Moment}

theorem unconcerned : Unconcerned (Pointer current vm? result) where
  load pointer finds := by
    cases pointer with
    | kept same idle => exact .kept (finds.currentVm.trans same) idle
    | cleared gone handle agreed => exact .cleared (finds.currentVm.trans gone) handle agreed
  agree pointer := by
    cases pointer with
    | kept same idle => exact .kept same idle
    | cleared gone handle agreed => exact .cleared gone handle (List.mem_append_left _ agreed)
  erase pointer := by
    cases pointer with
    | kept same idle => exact .kept (Document.currentVm_withInventory.trans same) idle
    | cleared gone handle agreed =>
        exact .cleared (Document.currentVm_withInventory.trans gone) handle agreed

theorem anyhow (pointer : Pointer current vm? (.ok ()) moment) :
    Pointer current vm? result moment := by
  cases pointer with
  | kept same idle => exact .kept same fun _ => idle rfl
  | cleared gone handle agreed => exact .cleared gone handle agreed

end Pointer

section Deletion

variable {current : Option (Cid .vm)} {stored : Option Document} {target : Instance}
  {settings : Settings} {skipDrain : Bool}
  {mayDelete : Moment → (resource : Resource) → Cid resource → Prop}

theorem Instance.delete_pointer (same : (content stored).currentVm = current)
    (allowed : mayDelete ⟨stored, []⟩ .vm target.vm) :
    (target.delete settings skipDrain).run.Keeps (terms mayDelete) ⟨stored, []⟩
      (Pointer current (some target.vm)) :=
  delete_keeps allowed (fun _ => .kept same nofun) (fun _ => .kept same nofun)
    fun _ _ => .cleared rfl rfl (List.mem_singleton.2 rfl)

end Deletion

namespace Operation

def mayDeleteVm (operation : Operation) (_ : Moment) : (resource : Resource) → Cid resource → Prop
  | .vm, vm => operation.vm? = some vm
  | _, _ => True

variable {settings : Settings} {stored : Option Document} {operation : Operation} {kind : Kind}
  {current vm? : Option (Cid .vm)} {result : Except LifecycleError Unit} {moment : Moment}

theorem mayDeleteVm_resource {cid : Cid kind.resource} :
    operation.mayDeleteVm moment kind.resource cid := by
  cases kind <;> trivial

theorem releaseCurrent_pointer {record : Record kind} (before : Pointer current vm? result moment) :
    (Lifecycle.releaseCurrent record).run.Keeps (terms operation.mayDeleteVm) moment
      fun _ => Pointer current vm? result :=
  Pointer.unconcerned.releaseCurrent (fun _ _ _ => mayDeleteVm_resource) before

theorem releaseUnused_pointer (before : Pointer current vm? result moment) :
    (Lifecycle.releaseUnused kind).run.Keeps (terms operation.mayDeleteVm) moment
      fun _ => Pointer current vm? result :=
  Pointer.unconcerned.releaseUnused (fun _ _ _ => mayDeleteVm_resource) before

theorem keeps_pointer (operation : Operation) (settings : Settings) :
    (operation.program settings).run.Keeps (terms operation.mayDeleteVm) ⟨stored, []⟩
      (Pointer (content stored).currentVm operation.vm?) := by
  have begun : Pointer (content stored).currentVm none (.ok ()) ⟨stored, []⟩ :=
    .kept rfl fun _ => rfl
  cases operation with
  | lookUp | status | stop | start =>
      exact Prog.Keeps.weaken
        (keeps_idle (by trivial) begun fun _ => Pointer.unconcerned.load begun)
        fun _ _ => Pointer.anyhow
  | delete deployment skipDrain =>
      let reached := Pointer (content stored).currentVm (delete deployment skipDrain).vm? (.ok ())
      apply Prog.keeps_bind.2
      apply Deployment.delete_keeps reached reached
      · intro absent
        exact .kept rfl fun _ => by rw [vm?, absent, Option.map_none]
      · intro target held
        have handle : (delete deployment skipDrain).vm? = some target.vm := by
          rw [vm?, held, Option.map_some]
        have deleted : (target.delete settings skipDrain).run.Keeps
            (terms (delete deployment skipDrain).mayDeleteVm) ⟨stored, []⟩
            (Pointer (content stored).currentVm (delete deployment skipDrain).vm?) :=
          handle ▸ Instance.delete_pointer rfl handle
        exact deleted.byResult (fun _ _ pointer => pointer) fun _ _ pointer => pointer
      · exact fun _ pointer _ => pointer
      · exact fun now record pointer _ => (releaseCurrent_pointer pointer).byResult
          (fun _ _ pointer => pointer) fun _ _ => Pointer.anyhow
      · exact fun _ pointer _ => pointer
      · exact fun now record pointer _ => (releaseCurrent_pointer pointer).byResult
          (fun _ _ pointer => pointer) fun _ _ => Pointer.anyhow
  | deleteInstance target skipDrain => exact Instance.delete_pointer rfl rfl
  | releaseCurrent record =>
      exact (releaseCurrent_pointer begun).weaken fun _ _ => Pointer.anyhow
  | releaseUnused kind => exact (releaseUnused_pointer begun).weaken fun _ _ => Pointer.anyhow
  | cleanup =>
      apply Prog.Keeps.exceptBind (releaseUnused_pointer begun)
      · intro _ now pointer
        exact (releaseUnused_pointer pointer).weaken fun _ _ => Pointer.anyhow
      · exact fun _ _ => Pointer.anyhow

theorem vm?_of_asked {trace : List (Event signature)} {after : Option Document} {vm : Cid .vm}
    {answer : Except CloudError Deletion}
    (run : (operation.program settings).run.Yields trace result)
    (along : surroundings.Along stored trace after) (asked : ⟨.delete .vm vm, answer⟩ ∈ trace) :
    operation.vm? = some vm := by
  have follows := Moment.along_follows along []
  obtain ⟨now, allowed⟩ := (operation.keeps_pointer settings).asks_of_mem run follows asked
  exact allowed

theorem delete_stops {vm : Cid .vm} (settings : Settings)
    (handle : operation.vm? = some vm) : StopsAtFailure (operation.program settings) := by
  cases operation with
  | delete deployment skipDrain =>
      exact (deployment.delete_stops settings skipDrain).bind (fun _ success => success)
        fun _ failed => failed
  | deleteInstance target skipDrain => exact Instance.delete_stops
  | _ => cases handle

end Operation

/-- An operation forgets the current VM only after the provider agreed to delete it, if and only if
its handle, where it has one to delete, is of that VM. In any case it is the VM of the handle that
the provider agreed to delete before the pointer is cleared, and a success clears it. -/
theorem vm_forgotten_only_when_deleted_iff {document : Document} {current : Cid .vm}
    (recorded : document.currentVm = some current) (settings : Settings) (operation : Operation) :
    ((∀ trace result after, (operation.program settings).run.Yields trace result →
        surroundings.Along (some document) trace after → (content after).currentVm = none →
          ∃ deletion, ⟨.delete .vm current, .ok deletion⟩ ∈ trace) ↔
      ∀ vm, operation.vm? = some vm → vm = current) ∧
    ∀ trace result after, (operation.program settings).run.Yields trace result →
      surroundings.Along (some document) trace after →
        ((content after).currentVm = some current ∧ (result = .ok () → operation.vm? = none)) ∨
        ((content after).currentVm = none ∧
          ∃ vm deletion, operation.vm? = some vm ∧ ⟨.delete .vm vm, .ok deletion⟩ ∈ trace) := by
  have outcome : ∀ trace result after, (operation.program settings).run.Yields trace result →
      surroundings.Along (some document) trace after →
        Pointer (some current) operation.vm? result ⟨after, agreements trace⟩ := by
    intro trace result after run along
    rw [← recorded]
    exact ends_of_keeps (operation.keeps_pointer settings) run along
  refine ⟨⟨fun forgotten vm handle => ?_, fun same trace result after run along gone => ?_⟩, ?_⟩
  -- Some run succeeds. It clears the pointer, so what was agreed about in it is the current VM; but
  -- the operation asks about no other VM than that of its handle.
  · obtain ⟨trace, result, after, run, success, along, _⟩ :=
      World.exists_success ⟨some document, ∅⟩ (Operation.delete_stops settings handle)
    have along := World.along_stored along
    obtain ⟨⟨⟩, rfl⟩ := ok_of_isOk success
    have gone : (content after.stored).currentVm = none := by
      cases outcome trace (.ok ()) after.stored run along with
      | kept _ idle => exact absurd (idle rfl) (by simp [handle])
      | cleared gone _ _ => exact gone
    obtain ⟨deletion, told⟩ := forgotten trace (.ok ()) after.stored run along gone
    exact Option.some.inj (handle.symm.trans (Operation.vm?_of_asked run along told))
  · cases outcome trace result after run along with
    | kept still _ =>
        rw [gone] at still
        cases still
    | cleared _ handle agreed =>
        rw [same _ handle] at agreed
        exact mem_agreements.1 agreed
  · intro trace result after run along
    cases outcome trace result after run along with
    | kept still idle => exact .inl ⟨still, idle⟩
    | cleared gone handle agreed =>
        obtain ⟨deletion, told⟩ := mem_agreements.1 agreed
        exact .inr ⟨gone, _, deletion, handle, told⟩

theorem current_vm_forgotten_when_deleted : ∃ trace after deletion,
    ((Operation.deleteInstance ⟨{}, ⟨"vm-1"⟩⟩ true).program {}).run.Yields trace (.ok ()) ∧
    surroundings.Along (some { currentVm := some ⟨"vm-1"⟩ }) trace after ∧
    (content after).currentVm = none ∧ ⟨.delete .vm ⟨"vm-1"⟩, .ok deletion⟩ ∈ trace := by
  let document : Document := { currentVm := some ⟨"vm-1"⟩ }
  let operation : Operation := .deleteInstance ⟨{}, ⟨"vm-1"⟩⟩ true
  let label := "Deleting VM 'vm-1'"
  let trace : List (Event signature) := [⟨.hasVm ⟨"vm-1"⟩, .ok false⟩, ⟨.stageBegun label, ()⟩,
    ⟨.now, .zero⟩, ⟨.delete .vm ⟨"vm-1"⟩, .ok .deleted⟩, ⟨.store .load, .ok document⟩,
    ⟨.store (.save {}), .ok ()⟩, ⟨.now, .zero⟩, ⟨.stageEnded label .done .zero, ()⟩]
  have run : (operation.program {}).run.Yields trace (.ok ()) :=
    ⟨_, _, rfl, _, _, rfl, _, _, rfl, _, _, rfl, _, _, rfl, _, _, rfl, _, _, rfl, _, _, rfl,
      rfl, rfl⟩
  have along : surroundings.Along (some document) trace (some {}) :=
    ⟨_, rfl, _, rfl, _, rfl, _, rfl, _, .loaded _, _, .saved _ _, _, rfl, _, rfl, rfl⟩
  have recorded : document.currentVm = some ⟨"vm-1"⟩ := rfl
  have same : ∀ vm, operation.vm? = some vm → vm = ⟨"vm-1"⟩ :=
    fun _ handle => (Option.some.inj handle).symm
  have forgotten := (vm_forgotten_only_when_deleted_iff recorded {} operation).1.2 same
  obtain ⟨deletion, told⟩ := forgotten trace (.ok ()) (some {}) run along rfl
  exact ⟨trace, some {}, deletion, run, along, rfl, told⟩

/-- A VM that becomes current between a lookup and the deletion is forgotten and stays at the
provider. -/
theorem newer_vm_forgotten : ∃ deployment looking setting deleting,
    (Deployment.current? {}).run.Yields looking (.ok (some deployment)) ∧
    surroundings.Along (some { currentVm := some ⟨"vm-1"⟩ }) looking
      (some { currentVm := some ⟨"vm-1"⟩ }) ∧
    (CurrentVm.set ⟨"vm-2"⟩).run.Yields setting (.ok ()) ∧
    Store.Serves.Along (some { currentVm := some ⟨"vm-1"⟩ }) setting
      (some { currentVm := some ⟨"vm-2"⟩ }) ∧
    ((Operation.delete deployment true).program {}).run.Yields deleting (.ok ()) ∧
    surroundings.Along (some { currentVm := some ⟨"vm-2"⟩ }) deleting (some {}) ∧
    ∀ deletion, ⟨.delete .vm ⟨"vm-2"⟩, .ok deletion⟩ ∉ deleting := by
  let old : Document := { currentVm := some ⟨"vm-1"⟩ }
  let new : Document := { currentVm := some ⟨"vm-2"⟩ }
  let label := "Deleting VM 'vm-1'"
  let load : Event signature := ⟨.store .load, .ok old⟩
  let looking : List (Event signature) := [load, load, load]
  let setting : List (Event Store.signature) := [⟨.load, .ok old⟩, ⟨.save new, .ok ()⟩]
  let deleting : List (Event signature) := [⟨.hasVm ⟨"vm-1"⟩, .ok false⟩, ⟨.stageBegun label, ()⟩,
    ⟨.now, .zero⟩, ⟨.delete .vm ⟨"vm-1"⟩, .ok .notFound⟩, ⟨.store .load, .ok new⟩,
    ⟨.store (.save {}), .ok ()⟩, ⟨.now, .zero⟩,
    ⟨.stageEnded label (.skipped "VM 'vm-1' not found") .zero, ()⟩]
  let deployment : Deployment := ⟨some ⟨{}, ⟨"vm-1"⟩⟩, none, none⟩
  have run : ((Operation.delete deployment true).program {}).run.Yields deleting (.ok ()) :=
    ⟨_, _, rfl, _, _, rfl, _, _, rfl, _, _, rfl, _, _, rfl, _, _, rfl, _, _, rfl, _, _, rfl,
      rfl, rfl⟩
  have along : surroundings.Along (some new) deleting (some {}) :=
    ⟨_, rfl, _, rfl, _, rfl, _, rfl, _, .loaded _, _, .saved _ _, _, rfl, _, rfl, rfl⟩
  refine ⟨deployment, looking, setting, deleting, ?_, ?_, ?_, ?_, run, along, ?_⟩
  · exact ⟨_, _, rfl, _, _, rfl, _, _, rfl, rfl, rfl⟩
  · exact ⟨_, .loaded _, _, .loaded _, _, .loaded _, rfl⟩
  · exact ⟨_, _, rfl, _, _, rfl, rfl, rfl⟩
  · exact ⟨_, .loaded _, _, .saved _ _, rfl⟩
  · intro deletion asked
    have handle : some (⟨"vm-1"⟩ : Cid .vm) = some ⟨"vm-2"⟩ :=
      Operation.vm?_of_asked run along asked
    exact absurd handle (by decide)

/-- A handle of a disk or a stemcell is looked up again, and a newer record is left alone. -/
theorem newer_record_left_alone {kind : Kind} {document : Document} {held current : Record kind}
    {trace : List (Event signature)} {result : Except LifecycleError Unit} {after : Option Document}
    (newer : (document.inventory kind).currentRecord? = some current)
    (different : current.id ≠ held.id) (run : (releaseCurrent held).run.Yields trace result)
    (along : surroundings.Along (some document) trace after) :
    after = some document ∧ ∀ resource cid answer, ⟨.delete resource cid, answer⟩ ∉ trace := by
  have idle : (releaseCurrent held).run.Keeps (terms fun _ _ _ => False) ⟨some document, []⟩
      fun _ now => now.stored = some document := by
    apply releaseCurrent_keeps fun _ => rfl
    · intro found finds _
      cases finds with
      | stored => rfl
    · intro label found other finds isCurrent same
      cases finds with
      | stored =>
          obtain rfl := Option.some.inj (newer.symm.trans isCurrent)
          exact absurd same different
  refine ⟨ends_of_keeps idle run along, fun resource cid answer asked => ?_⟩
  have follows := Moment.along_follows along []
  obtain ⟨now, allowed⟩ := idle.asks_of_mem run follows asked
  exact allowed

end DeploymentLifecycle.Lifecycle
