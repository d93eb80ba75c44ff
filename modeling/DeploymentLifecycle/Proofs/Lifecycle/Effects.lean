import DeploymentLifecycle.Proofs.Lifecycle.Conduct

namespace DeploymentLifecycle.Lifecycle

/-! What the parts of an operation make of the stored document, and which deletions they ask for. -/

open Store (Finds)

variable {mayDelete : Moment → (resource : Resource) → Cid resource → Prop} {moment : Moment}
  {kind : Kind}

theorem aside_of_quiet (request : Request) (quiet : request.IsQuiet) : request.IsAside := by
  cases request <;> trivial

theorem aside_of_guest (request : Request) (guest : request.IsGuest) : request.IsAside := by
  cases request <;> first | trivial | exact guest.1.elim

theorem eq_of_along_aside {stored after : Option Document} {trace : List (Event signature)}
    (aside : ∀ event ∈ trace, event.request.IsAside)
    (along : surroundings.Along stored trace after) : after = stored := by
  induction trace generalizing stored with
  | nil => exact along
  | cons event rest ih =>
      obtain ⟨first, later⟩ := List.forall_mem_cons.1 aside
      obtain ⟨middle, step, along⟩ := along
      have still : middle = stored := by
        obtain ⟨request, answer⟩ := event
        cases request <;> first | exact first.elim | exact step
      rw [ih later along, still]

theorem currentRecord?_keeps {goal : Except LifecycleError (Option (Record kind)) → Moment → Prop}
    (unread : ∀ error, goal (.error error) moment)
    (found : ∀ document, Finds moment.stored document →
      goal (.ok (document.inventory kind).currentRecord?) ⟨some document, moment.agreed⟩) :
    (currentRecord? kind).run.Keeps (terms mayDelete) moment goal :=
  keeps_stored (Records.current?_keeps (fun _ => unread _) found)

theorem currentInstance?_keeps {settings : Settings}
    {goal : Except LifecycleError (Option Instance) → Moment → Prop}
    (unread : ∀ error, goal (.error error) moment)
    (found : ∀ document, Finds moment.stored document →
      goal (.ok (document.currentVm.map fun vm => ⟨settings.instanceName, vm⟩))
        ⟨some document, moment.agreed⟩) :
    (currentInstance? settings).run.Keeps (terms mayDelete) moment goal := by
  rw [currentInstance?, ExceptT.run_bind, Prog.keeps_bind]
  exact keeps_stored (CurrentVm.find?_keeps (fun _ => unread _) found)

/-- A stage in which the provider is asked for a deletion, and the store is told if it agrees. -/
theorem deletionStage_keeps {label : String} {resource : Resource} {cid : Cid resource}
    {program : Store.Program Unit} {next : Deletion → Program Step}
    {goal : Except LifecycleError Unit → Moment → Prop}
    (ends : ∀ deletion, ∃ step, next deletion = pure step)
    (allowed : mayDelete moment resource cid) (refused : ∀ error, goal (.error error) moment)
    (recorded : program.run.Keeps Store.terms moment.stored fun result after =>
      goal (result.mapError .state) ⟨after, moment.agreed ++ [⟨resource, cid⟩]⟩) :
    (perform label (cloudCall (ask (.delete resource cid)) >>= fun deletion => do
      stored program
      next deletion)).run.Keeps (terms mayDelete) moment goal := by
  refine keeps_perform ?_
  rw [ExceptT.run_bind, Prog.keeps_bind, keeps_delete]
  refine ⟨allowed, fun _ => refused _, fun deletion => ?_⟩
  dsimp only
  rw [ExceptT.run_bind, Prog.keeps_bind]
  refine keeps_stored (recorded.weaken fun result after reached => ?_)
  cases result with
  | error error => exact reached
  | ok done =>
      obtain ⟨step, same⟩ := ends deletion
      dsimp only
      rw [same]
      exact reached

/-- A release asks for one deletion. The record is dropped when the provider agrees and the document
can be saved, and the document stays as it is otherwise. -/
theorem release_keeps {label : String} {record : Record kind} {document : Document}
    {agreed : List Asset} {goal : Except LifecycleError Unit → Moment → Prop}
    (allowed : mayDelete ⟨some document, agreed⟩ kind.resource record.cid)
    (refused : ∀ error, goal (.error error) ⟨some document, agreed⟩)
    (unrecorded : ∀ error,
      goal (.error error) ⟨some document, agreed ++ [⟨kind.resource, record.cid⟩]⟩)
    (released : goal (.ok ())
      ⟨some (document.withInventory ((document.inventory kind).erase record.id)),
        agreed ++ [⟨kind.resource, record.cid⟩]⟩) :
    (release label record).run.Keeps (terms mayDelete) ⟨some document, agreed⟩ goal := by
  refine deletionStage_keeps (fun deletion => ?_) allowed refused ?_
  · cases deletion <;> exact ⟨_, rfl⟩
  · refine Records.delete_keeps (fun _ => unrecorded _) fun found finds => ?_
    cases finds with
    | stored => exact released

/-- A release of the current record looks at the stored document again, and releases the record that
is current there if it is still the same one. -/
theorem releaseCurrent_keeps {record : Record kind}
    {goal : Except LifecycleError Unit → Moment → Prop}
    (unread : ∀ error, goal (.error error) moment)
    (stale : ∀ document, Finds moment.stored document →
      (∀ current, (document.inventory kind).currentRecord? = some current →
        current.id ≠ record.id) →
      goal (.ok ()) ⟨some document, moment.agreed⟩)
    (current : ∀ label document current, Finds moment.stored document →
      (document.inventory kind).currentRecord? = some current → current.id = record.id →
      (release label current).run.Keeps (terms mayDelete) ⟨some document, moment.agreed⟩ goal) :
    (releaseCurrent record).run.Keeps (terms mayDelete) moment goal := by
  rw [releaseCurrent, ExceptT.run_bind, Prog.keeps_bind]
  refine currentRecord?_keeps unread fun document finds => ?_
  dsimp only
  split
  · next held found =>
    split
    · next same => exact current _ document held finds found same
    · next other =>
      refine stale document finds fun current isCurrent => ?_
      obtain rfl := Option.some.inj (found.symm.trans isCurrent)
      exact other
  · next absent =>
    refine stale document finds fun current isCurrent => ?_
    cases absent.symm.trans isCurrent

/-- Deleting the VM of a handle asks for that one deletion. When the provider agrees and the
document can be saved, no VM is current any more; otherwise the document stays as it is. -/
theorem Instance.deleteVm_keeps {target : Instance}
    {goal : Except LifecycleError Unit → Moment → Prop}
    (allowed : mayDelete moment .vm target.vm)
    (refused : ∀ error, goal (.error error) moment)
    (unrecorded : ∀ error,
      goal (.error error) ⟨moment.stored, moment.agreed ++ [⟨.vm, target.vm⟩]⟩)
    (deleted : ∀ document, Finds moment.stored document → goal (.ok ())
      ⟨some { document with currentVm := none }, moment.agreed ++ [⟨.vm, target.vm⟩]⟩) :
    target.deleteVm.run.Keeps (terms mayDelete) moment goal := by
  refine deletionStage_keeps (fun deletion => ?_) allowed refused ?_
  · cases deletion <;> exact ⟨_, rfl⟩
  · exact CurrentVm.clear_keeps (fun _ => unrecorded _) deleted

theorem Instance.delete_keeps {target : Instance} {settings : Settings} {skipDrain : Bool}
    {goal : Except LifecycleError Unit → Moment → Prop}
    (allowed : mayDelete moment .vm target.vm)
    (refused : ∀ error, goal (.error error) moment)
    (unrecorded : ∀ error,
      goal (.error error) ⟨moment.stored, moment.agreed ++ [⟨.vm, target.vm⟩]⟩)
    (deleted : ∀ document, Finds moment.stored document → goal (.ok ())
      ⟨some { document with currentVm := none }, moment.agreed ++ [⟨.vm, target.vm⟩]⟩) :
    (target.delete settings skipDrain).run.Keeps (terms mayDelete) moment goal := by
  have vm : target.deleteVm.run.Keeps (terms mayDelete) moment goal :=
    deleteVm_keeps allowed refused unrecorded deleted
  have waits := awaitAgent_asks aside_of_quiet (fun _ => trivial) target settings.ping
  have stops := stopJobs_asks aside_of_quiet aside_of_guest target skipDrain
  have unmounts := unmountDisks_asks aside_of_quiet aside_of_guest
  -- What goes before the deletion leaves the moment alone, and can only end the operation early.
  have after : ∀ {α : Type} {program : Program α} {next : α → Program Unit},
      program.run.Asks Request.IsAside →
      (∀ value, (next value).run.Keeps (terms mayDelete) moment goal) →
      (program >>= next).run.Keeps (terms mayDelete) moment goal := by
    intro α program next aside rest
    rw [ExceptT.run_bind]
    refine Prog.keeps_bind.2 (keeps_of_aside aside fun outcome => ?_)
    cases outcome with
    | ok value => exact rest value
    | error error => exact refused error
  refine after (cloudCall_asks (asks_ask.2 trivial)) fun known => ?_
  cases known with
  | false => exact vm
  | true =>
      refine after waits fun reachable => ?_
      cases reachable with
      | false => exact vm
      | true => exact after stops fun _ => after unmounts fun _ => vm

namespace Deployment

def ofDocument (settings : Settings) (document : Document) : Deployment where
  vmInstance := document.currentVm.map fun vm => ⟨settings.instanceName, vm⟩
  disk := (document.inventory .disk).currentRecord?
  stemcell := (document.inventory .stemcell).currentRecord?

theorem current?_keeps {settings : Settings}
    {goal : Except LifecycleError (Option Deployment) → Moment → Prop}
    (unread : ∀ error, goal (.error error) moment)
    (unreadLater : ∀ error document, Finds moment.stored document →
      goal (.error error) ⟨some document, moment.agreed⟩)
    (found : ∀ document, Finds moment.stored document →
      goal (.ok (if (ofDocument settings document).isEmpty then none
        else some (ofDocument settings document))) ⟨some document, moment.agreed⟩) :
    (current? settings).run.Keeps (terms mayDelete) moment goal := by
  rw [current?, ExceptT.run_bind, Prog.keeps_bind]
  refine currentInstance?_keeps unread fun document finds => ?_
  have unreadNow : ∀ error, goal (.error error) ⟨some document, moment.agreed⟩ :=
    fun error => unreadLater error document finds
  dsimp only
  rw [ExceptT.run_bind, Prog.keeps_bind]
  refine currentRecord?_keeps unreadNow fun again same => ?_
  cases same with
  | stored =>
      dsimp only
      rw [ExceptT.run_bind, Prog.keeps_bind]
      refine currentRecord?_keeps unreadNow fun again same => ?_
      cases same with
      | stored => exact found document finds

/-- What comes after a handle was consumed starts from what its deletion, or its absence, leaves. -/
theorem consume_bind_keeps {α β : Type} {handle : Option α} {delete : α → Program Unit}
    {next : Option α × Except LifecycleError Unit → Prog signature β} {goal : β → Moment → Prop}
    (reached : Moment → Prop) (absent : handle = none → reached moment)
    (held : ∀ item, handle = some item → (delete item).run.Keeps (terms mayDelete) moment
      (Prog.ByResult (fun _ => reached) fun error after =>
        (next (handle, .error error)).Keeps (terms mayDelete) after goal))
    (rest : ∀ now, reached now → (next (none, .ok ())).Keeps (terms mayDelete) now goal) :
    (consume handle delete >>= next).Keeps (terms mayDelete) moment goal := by
  apply Prog.keeps_bind.2
  cases handle with
  | none => exact rest moment (absent rfl)
  | some item =>
      apply (held item rfl).bind
      intro result after ends
      cases result with
      | ok _ => exact rest after ends
      | error error => exact ends

/-- A deletion goes on from the instance to the disk and from there to the stemcell only when there
was nothing to delete or its deletion succeeded, and keeps the handles it has not done with. -/
theorem delete_keeps {deployment : Deployment} {settings : Settings} {skipDrain : Bool}
    {goal : Deployment × Except LifecycleError Unit → Moment → Prop}
    (afterInstance afterDisk : Moment → Prop)
    (noInstance : deployment.vmInstance = none → afterInstance moment)
    (vmInstance : ∀ target, deployment.vmInstance = some target →
      (target.delete settings skipDrain).run.Keeps (terms mayDelete) moment
        (Prog.ByResult (fun _ => afterInstance) fun error => goal (deployment, .error error)))
    (noDisk : ∀ now, afterInstance now → deployment.disk = none → afterDisk now)
    (disk : ∀ now record, afterInstance now → deployment.disk = some record →
      (releaseCurrent record).run.Keeps (terms mayDelete) now
        (Prog.ByResult (fun _ => afterDisk)
          fun error => goal ({ deployment with vmInstance := none }, .error error)))
    (noStemcell : ∀ now, afterDisk now → deployment.stemcell = none → goal ({}, .ok ()) now)
    (stemcell : ∀ now record, afterDisk now → deployment.stemcell = some record →
      (releaseCurrent record).run.Keeps (terms mayDelete) now
        (Prog.ByResult (fun _ => goal ({}, .ok ()))
          fun error => goal ({ stemcell := deployment.stemcell }, .error error))) :
    (deployment.delete settings skipDrain).Keeps (terms mayDelete) moment goal := by
  rw [delete]
  apply consume_bind_keeps afterInstance noInstance vmInstance
  intro now afterVm
  apply consume_bind_keeps afterDisk (noDisk now afterVm) fun record => disk now record afterVm
  intro now afterBoth
  apply consume_bind_keeps (goal ({}, .ok ())) (noStemcell now afterBoth)
    fun record => stemcell now record afterBoth
  exact fun _ ends => ends

end Deployment

/-- What still holds when a document is loaded, when records are dropped and when more is agreed
to. -/
structure Unconcerned (holds : Moment → Prop) : Prop where
  load : ∀ {moment document}, holds moment → Finds moment.stored document →
    holds ⟨some document, moment.agreed⟩
  agree : ∀ {moment asset}, holds moment → holds ⟨moment.stored, moment.agreed ++ [asset]⟩
  erase : ∀ {document agreed kind} {id : RecordId kind}, holds ⟨some document, agreed⟩ →
    holds ⟨some (document.withInventory ((document.inventory kind).erase id)), agreed⟩

namespace Unconcerned

variable {holds : Moment → Prop} (unconcerned : Unconcerned holds)
  (allowed : ∀ moment cid, holds moment → mayDelete moment kind.resource cid)

include unconcerned

theorem release {label : String} {record : Record kind} {document : Document}
    {agreed : List Asset} (allowed : mayDelete ⟨some document, agreed⟩ kind.resource record.cid)
    (before : holds ⟨some document, agreed⟩) :
    (release label record).run.Keeps (terms mayDelete) ⟨some document, agreed⟩ fun _ after =>
      holds after ∧ after.stored.isSome := by
  have told : holds ⟨some document, agreed ++ [⟨kind.resource, record.cid⟩]⟩ :=
    unconcerned.agree before
  have dropped : holds ⟨some (document.withInventory ((document.inventory kind).erase record.id)),
      agreed ++ [⟨kind.resource, record.cid⟩]⟩ := unconcerned.erase told
  exact release_keeps allowed (fun _ => ⟨before, rfl⟩) (fun _ => ⟨told, rfl⟩) ⟨dropped, rfl⟩

include allowed

theorem releaseCurrent {record : Record kind} (before : holds moment) :
    (releaseCurrent record).run.Keeps (terms mayDelete) moment fun _ => holds := by
  apply releaseCurrent_keeps (fun _ => before) fun _ finds _ => unconcerned.load before finds
  intro label document current finds _ _
  have loaded := unconcerned.load before finds
  exact (unconcerned.release (allowed _ _ loaded) loaded).weaken fun _ _ => And.left

theorem releaseUnused (before : holds moment) :
    (releaseUnused kind).run.Keeps (terms mayDelete) moment fun _ => holds := by
  rw [Lifecycle.releaseUnused, ExceptT.run_bind, Prog.keeps_bind]
  refine keeps_stored (Records.unused_keeps (fun _ => before) fun document finds => ?_)
  refine Prog.keeps_forM (fun _ now => holds now ∧ now.stored.isSome)
    ⟨unconcerned.load before finds, rfl⟩ ?_ fun _ => And.left
  intro record rest now held
  obtain ⟨stored, agreed⟩ := now
  obtain ⟨still, present⟩ := held
  obtain ⟨document, rfl⟩ := Option.isSome_iff_exists.1 present
  exact (unconcerned.release (allowed _ _ still) still).byResult (fun _ _ ends => ends)
    fun _ _ ends => ends.1

end Unconcerned

end DeploymentLifecycle.Lifecycle
