import DeploymentLifecycle.Proofs.Cloud.Replies
import DeploymentLifecycle.Proofs.Lifecycle.DeletionOrder
import DeploymentLifecycle.Proofs.Lifecycle.KeptHandles
import DeploymentLifecycle.Proofs.State.TornDown

namespace DeploymentLifecycle

namespace Document

/-- The document without the VM pointer, or without the current record of a kind and the pointer to
it. -/
def dropped (document : Document) : Resource → Document
  | .vm => document.withoutVm
  | .disk => document.dropCurrent .disk
  | .stemcell => document.dropCurrent .stemcell

variable {document : Document} {kind : Kind}

theorem dropped_resource : document.dropped kind.resource = document.dropCurrent kind := by
  cases kind <;> rfl

end Document

namespace Lifecycle

/-! What becomes of a record when the provider was told to delete what it stands for. -/

open Request

variable {trace first rest : List (Event signature)} {document : Document}
  {stored after : Option Document} {resource : Resource} {cid : Cid resource} {settings : Settings}
  {skipDrain : Bool} {result : Except LifecycleError Unit}

def Request.IsDeletion : Request → Prop
  | .delete .. => True
  | _ => False

theorem Request.IsQuiet.not_deletion {request : Request} (quiet : request.IsQuiet) :
    ¬ request.IsDeletion := by
  cases request <;> first | exact quiet.elim | exact id

theorem Request.IsStore.not_deletion {request : Request} (store : request.IsStore) :
    ¬ request.IsDeletion := by
  cases request <;> first | exact store.elim | exact id

theorem Request.IsInside.not_deletion {request : Request} (inside : request.IsInside) :
    ¬ request.IsDeletion := by
  cases request <;> first | exact id | exact (inside.elim id id).elim

theorem Request.IsInside.aside {request : Request} (inside : request.IsInside) :
    request.IsAside := by
  cases request <;> first | trivial | exact (inside.elim id id).elim

/-- The store does what it is asked for. -/
def StoreWorks (trace : List (Event signature)) : Prop :=
  ∀ event ∈ trace, event.request.IsStore → ¬ Fails event

/-- How a stage ends in which the provider was told to delete a resource, with a store that works.
The document that was stored until then is given. -/
inductive Concludes (document : Document) (resource : Resource) :
    Except CloudError Deletion → List (Event signature) → Option Document →
      Except LifecycleError Unit → Prop
  | refused (error : CloudError) (ended : Duration) (label : String) (elapsed : Duration) :
      Concludes document resource (.error error)
        [⟨.now, ended⟩, ⟨.stageEnded label (.failed (.cloud error)) elapsed, ()⟩] (some document)
        (.error (.cloud error))
  | dropped (deletion : Deletion) (reason : String) {recorded : List (Event signature)}
      (storeOnly : ∀ event ∈ recorded, event.request.IsStore)
      (drops : surroundings.Along (some document) recorded (some (document.dropped resource)))
      (ended : Duration) (label : String) (elapsed : Duration) :
      Concludes document resource (.ok deletion)
        (recorded ++ [⟨.now, ended⟩,
          ⟨.stageEnded label (Step.ofDeletion reason deletion).outcome elapsed, ()⟩])
        (some (document.dropped resource)) (.ok ())

theorem DeletionStage.concludes {program : Store.Program Unit}
    (stage : DeletionStage cid program trace result)
    (along : surroundings.Along (some document) trace after) (works : StoreWorks trace)
    (stops : program.run.StopsAtFailure Store.policy)
    (drops : (Lifecycle.stored program).run.Keeps freely ⟨some document, []⟩ (Prog.ByResult
      (fun _ now => now.stored = some (document.dropped resource)) fun _ _ => True)) :
    ∃ opening answer closing, trace = opening ++ ⟨.delete resource cid, answer⟩ :: closing ∧
      (∀ event ∈ opening, event.request.IsQuiet) ∧
      Concludes document resource answer closing after result := by
  have storeOnly : (Lifecycle.stored program).run.Asks IsStore := stored_asks fun _ => trivial
  cases stage with
  | @told label reason started answer recorded ended outcome recording =>
      refine ⟨[_, _], answer, _, rfl, quiet_pair (by trivial) (by trivial), ?_⟩
      obtain ⟨_, rfl, _, rfl, _, rfl, later⟩ := along
      obtain ⟨_, saving, _, rfl, _, rfl, rfl⟩ := Conduct.along_append.1 later
      cases recording with
      | refused error =>
          obtain rfl : after = some document := saving
          exact .refused error ended label _
      | recorded deletion runs =>
          obtain rfl : after = some (document.dropped resource) := ends_of_keeps drops runs saving
          exact .dropped deletion reason (storeOnly.trace runs) saving ended label _
      | unrecorded deletion runs =>
          have fine : ∀ event ∈ recorded, ¬ Fails event := fun event member =>
            works event (by simp [member]) (storeOnly.trace runs event member)
          cases ((stored_stops stops).success_iff runs).2 fine

/-- What a part of a deletion does that is about one resource: it has no deletion in it, or one of
what is current, up to which it changes nothing. -/
inductive Part (document : Document) (resource : Resource) :
    List (Event signature) → Option Document → Except LifecycleError Unit → Prop
  | idle {trace : List (Event signature)} {after : Option Document}
      {result : Except LifecycleError Unit}
      (free : ∀ event ∈ trace, ¬ event.request.IsDeletion) :
      Part document resource trace after result
  | asked {opening closing : List (Event signature)} {cid : Cid resource}
      {answer : Except CloudError Deletion} {after : Option Document}
      {result : Except LifecycleError Unit} (free : ∀ event ∈ opening, ¬ event.request.IsDeletion)
      (still : surroundings.Along (some document) opening (some document))
      (current : document.currentCid? resource = some cid)
      (concludes : Concludes document resource answer closing after result) :
      Part document resource (opening ++ ⟨.delete resource cid, answer⟩ :: closing) after result

theorem Concludes.free {answer : Except CloudError Deletion}
    (concludes : Concludes document resource answer trace after result) :
    ∀ event ∈ trace, ¬ event.request.IsDeletion := by
  have ends : ∀ (first second : Event signature), first.request.IsQuiet → second.request.IsQuiet →
      ∀ event ∈ [first, second], ¬ event.request.IsDeletion :=
    fun _ _ opens closes event member => (quiet_pair opens closes event member).not_deletion
  cases concludes with
  | refused error ended label elapsed => exact ends _ _ trivial trivial
  | dropped deletion reason storeOnly drops ended label elapsed =>
      exact List.forall_mem_append.2 ⟨fun event member => (storeOnly event member).not_deletion,
        ends _ _ trivial trivial⟩

/-- There is one place in a part where a deletion is asked for. -/
theorem Part.at {other : Resource} {asked : Cid other} {answer : Except CloudError Deletion}
    {early late : List (Event signature)}
    (part : Part document resource (early ++ ⟨.delete other asked, answer⟩ :: late) after result) :
    other = resource ∧ surroundings.Along (some document) early (some document) ∧
      document.currentCid? other = some asked ∧
      Concludes document other answer late after result := by
  generalize same : early ++ ⟨.delete other asked, answer⟩ :: late = trace at part
  cases part with
  | idle free =>
      subst same
      exact (free ⟨.delete other asked, answer⟩ (by simp) trivial).elim
  | @asked opening closing _ _ _ _ free still current concludes =>
      -- Nothing else in the part is a deletion, so both ways to split it are the same.
      have notBefore : ⟨.delete other asked, answer⟩ ∉ opening :=
        fun member => free _ member trivial
      have notAfter : ⟨.delete other asked, answer⟩ ∉ closing :=
        fun member => concludes.free _ member trivial
      obtain ⟨rfl, told, rfl⟩ := (List.append_cons_inj_of_notMem notBefore notAfter).1 same.symm
      cases told
      exact ⟨rfl, still, current, concludes⟩

theorem DeletionStage.part {program : Store.Program Unit}
    (stage : DeletionStage cid program rest result)
    (free : ∀ event ∈ first, ¬ event.request.IsDeletion)
    (still : surroundings.Along (some document) first (some document))
    (along : surroundings.Along (some document) rest after) (works : StoreWorks rest)
    (current : document.currentCid? resource = some cid)
    (stops : program.run.StopsAtFailure Store.policy)
    (drops : (Lifecycle.stored program).run.Keeps freely ⟨some document, []⟩ (Prog.ByResult
      (fun _ now => now.stored = some (document.dropped resource)) fun _ _ => True)) :
    Part document resource (first ++ rest) after result := by
  obtain ⟨opening, answer, closing, rfl, opens, concludes⟩ :=
    stage.concludes along works stops drops
  obtain ⟨middle, begins, _⟩ := Conduct.along_append.1 along
  obtain rfl := eq_of_along_aside (fun event member => aside_of_quiet _ (opens event member)) begins
  have quietFree : ∀ event ∈ opening, ¬ event.request.IsDeletion :=
    fun event member => (opens event member).not_deletion
  rw [← List.append_assoc]
  exact .asked (List.forall_mem_append.2 ⟨free, quietFree⟩)
    (Conduct.along_append.2 ⟨_, still, begins⟩) current concludes

theorem Instance.delete_part {target : Instance} (current : document.currentVm = some target.vm)
    (run : (target.delete settings skipDrain).run.Yields trace result)
    (along : surroundings.Along (some document) trace after) (works : StoreWorks trace) :
    Part document .vm trace after result := by
  have clears : (Lifecycle.stored CurrentVm.clear).run.Keeps freely ⟨some document, []⟩
      (Prog.ByResult (fun _ now => now.stored = some (document.dropped .vm)) fun _ _ => True) := by
    refine keeps_stored (CurrentVm.clear_keeps (fun _ => trivial) fun found finds => ?_)
    cases finds with
    | stored => exact rfl
  have part : ∀ {before vm : List (Event signature)},
      (∀ event ∈ before, ¬ event.request.IsDeletion ∧ event.request.IsAside) →
      surroundings.Along (some document) (before ++ vm) after → StoreWorks (before ++ vm) →
      target.deleteVm.run.Yields vm result → Part document .vm (before ++ vm) after result := by
    intro before vm apart along works deletion
    obtain ⟨middle, early, late⟩ := Conduct.along_append.1 along
    obtain rfl := eq_of_along_aside (fun event member => (apart event member).2) early
    exact (Instance.deleteVm_stage deletion).part (fun event member => (apart event member).1) early
      late (fun event member => works event (List.mem_append_right _ member)) current
      CurrentVm.clear_stops clears
  have inside : ∀ {events : List (Event signature)}, (∀ event ∈ events, event.request.IsInside) →
      ∀ event ∈ events, ¬ event.request.IsDeletion ∧ event.request.IsAside :=
    fun within event member => ⟨(within event member).not_deletion, (within event member).aside⟩
  have checked : ∀ {known : Except CloudError Bool} {events : List (Event signature)},
      (∀ event ∈ events, event.request.IsInside) → ∀ event ∈ ⟨.hasVm target.vm, known⟩ :: events,
        ¬ event.request.IsDeletion ∧ event.request.IsAside :=
    fun within => List.forall_mem_cons.2 ⟨⟨id, trivial⟩, inside within⟩
  cases Instance.delete_yields run with
  | unasked refusal => exact .idle (List.forall_mem_singleton.2 id)
  | unknown deletion => exact part (checked (List.forall_mem_nil _)) along works deletion
  | unreachable silent deletion => exact part (checked silent.inside) along works deletion
  | interrupted reached within follows =>
      have free := inside (List.forall_mem_append.2 ⟨reached.inside, within⟩)
      exact .idle (List.forall_mem_cons.2 ⟨id, fun event member => (free event member).1⟩)
  | emptied reached within follows deletion =>
      exact part (checked (List.forall_mem_append.2 ⟨reached.inside, within⟩)) along works deletion

theorem releaseCurrent_part {kind : Kind} {record : Record kind}
    (current : (document.inventory kind).currentRecord? = some record)
    (run : (releaseCurrent record).run.Yields trace result)
    (along : surroundings.Along (some document) trace after) (works : StoreWorks trace) :
    Part document kind.resource trace after result := by
  have dropped : document.withInventory ((document.inventory kind).erase record.id) =
      document.dropped kind.resource := by
    rw [Document.dropped_resource, Document.dropCurrent, Inventory.dropCurrent_of_some current]
  have drops : (Lifecycle.stored (Records.delete record.id)).run.Keeps freely ⟨some document, []⟩
      (Prog.ByResult (fun _ now => now.stored = some (document.dropped kind.resource))
        fun _ _ => True) := by
    refine keeps_stored (Records.delete_keeps (fun _ => trivial) fun found finds => ?_)
    cases finds with
    | stored => exact congrArg some dropped
  have asked : document.currentCid? kind.resource = some record.cid := by
    rw [Document.currentCid?_resource, current]
    rfl
  have lookup : (currentRecord? kind).run.Asks fun request : Request => ¬ request.IsDeletion :=
    stored_asks fun _ => id
  rcases Prog.yields_exceptBind.1 run with
    ⟨error, _, failing⟩ | ⟨found, first, rest, rfl, looking, releasing⟩
  · exact .idle (lookup.trace failing)
  · obtain ⟨middle, early, later⟩ := Conduct.along_append.1 along
    have finds : (currentRecord? kind).run.Keeps freely ⟨some document, []⟩ fun result now =>
        ∀ found, result = .ok found → found = some record ∧ now.stored = some document := by
      refine currentRecord?_keeps (fun error found failed => ?_) fun again same found answered => ?_
      · cases failed
      · cases same with
        | stored =>
            cases answered
            exact ⟨current, rfl⟩
    obtain ⟨rfl, rfl⟩ := ends_of_keeps finds looking early found rfl
    dsimp only at releasing
    rw [if_pos rfl] at releasing
    exact (release_stage releasing).part (lookup.trace looking) early later
      (fun event member => works event (List.mem_append_right _ member)) asked
      Records.delete_stops drops

/-- What becomes of a record after the provider's answer. It was in the one document, and another
may be stored at the end. -/
inductive Fate (settings : Settings) (before : Document) (resource : Resource)
    (after : Option Document) (left : Deployment) (result : Except LifecycleError Unit) :
    Except CloudError Deletion → List (Event signature) → Prop
  | refused (error : CloudError) (ended : Duration) (label : String) (elapsed : Duration)
      (kept : after = some before) (handles : left = Deployment.ofDocument settings before)
      (ends : result = .error (.cloud error)) :
      Fate settings before resource after left result (.error error)
        [⟨.now, ended⟩, ⟨.stageEnded label (.failed (.cloud error)) elapsed, ()⟩]
  | dropped (deletion : Deletion) (reason : String) {recorded rest : List (Event signature)}
      (storeOnly : ∀ event ∈ recorded, event.request.IsStore)
      (drops : surroundings.Along (some before) recorded (some (before.dropped resource)))
      (ended : Duration) (label : String) (elapsed : Duration)
      (gone : ∃ final, after = some final ∧ final.currentCid? resource = none) :
      Fate settings before resource after left result (.ok deletion)
        (recorded ++ ⟨.now, ended⟩ ::
          ⟨.stageEnded label (Step.ofDeletion reason deletion).outcome elapsed, ()⟩ :: rest)

/-- Every resource that is asked to be deleted is current then, and has its fate. -/
def Fates (settings : Settings) (document : Document) (trace : List (Event signature))
    (after : Option Document) (left : Deployment) (result : Except LifecycleError Unit) : Prop :=
  ∀ early (resource : Resource) (cid : Cid resource) answer late,
    trace = early ++ ⟨.delete resource cid, answer⟩ :: late →
    ∃ before, surroundings.Along (some document) early (some before) ∧
      before.currentCid? resource = some cid ∧
      Fate settings before resource after left result answer late

namespace Fates

variable {middle : Document} {left : Deployment}

theorem nil : Fates settings document [] after left result := by
  intro early resource cid answer late same
  simp at same

theorem error {error : LifecycleError} (part : Part document resource trace after (.error error)) :
    Fates settings document trace after (.ofDocument settings document) (.error error) := by
  intro early other cid answer late same
  subst same
  obtain ⟨rfl, still, current, concludes⟩ := part.at
  cases concludes with
  | refused refusal ended label elapsed =>
      exact ⟨document, still, current, .refused refusal ended label elapsed rfl rfl rfl⟩

theorem append (fates : Fates settings middle rest after left result)
    (part : Part document resource first (some middle) (.ok ()))
    (along : surroundings.Along (some document) first (some middle))
    (gone : ∃ final, after = some final ∧ final.currentCid? resource = none) :
    Fates settings document (first ++ rest) after left result := by
  intro early other cid answer late same
  -- The deletion is the one of this part, or one of those that the rest tells of.
  rcases split_append same with ⟨between, rfl, rfl⟩ | ⟨between, rfl, rfl⟩
  · obtain ⟨rfl, still, current, concludes⟩ := part.at
    refine ⟨document, still, current, ?_⟩
    cases concludes with
    | dropped deletion reason storeOnly drops ended label elapsed =>
        rw [List.append_assoc]
        exact .dropped deletion reason storeOnly drops ended label elapsed gone
  · obtain ⟨before, later, current, fate⟩ := fates between other cid answer late rfl
    exact ⟨before, Conduct.along_append.2 ⟨_, along, later⟩, current, fate⟩

end Fates

namespace Deployment

variable {left : Deployment}

theorem consumed_vm {result : Except LifecycleError Unit}
    (consumed : Consumed (ofDocument settings document).vmInstance (·.delete settings skipDrain)
      trace result)
    (along : surroundings.Along (some document) trace after) :
    (StoreWorks trace → Part document .vm trace after result) ∧
      (result = .ok () → after = some document.withoutVm) := by
  rcases consumed with ⟨absent, rfl, rfl⟩ | ⟨target, held, run⟩
  · have noVm : document.currentVm = none := Option.map_eq_none_iff.1 absent
    refine ⟨fun _ => .idle (List.forall_mem_nil _), fun _ => ?_⟩
    rw [Document.withoutVm_of_none noVm]
    exact along
  · obtain ⟨vm, current, rfl⟩ := Option.map_eq_some_iff.1 held
    refine ⟨Instance.delete_part current run along, ?_⟩
    have keeps : (Instance.delete ⟨settings.instanceName, vm⟩ settings skipDrain).run.Keeps freely
        ⟨some document, []⟩ fun result now => result = .ok () →
          now.stored = some document.withoutVm := by
      refine Instance.delete_keeps trivial (fun _ => nofun) (fun _ => nofun) fun found finds _ => ?_
      cases finds with
      | stored => exact rfl
    exact ends_of_keeps keeps run along

theorem consumed_record {kind : Kind} {result : Except LifecycleError Unit}
    (consumed : Consumed (document.inventory kind).currentRecord? releaseCurrent trace result)
    (along : surroundings.Along (some document) trace after) :
    (StoreWorks trace → Part document kind.resource trace after result) ∧
      (result = .ok () → after = some (document.dropCurrent kind)) := by
  rcases consumed with ⟨absent, rfl, rfl⟩ | ⟨record, held, run⟩
  · refine ⟨fun _ => .idle (List.forall_mem_nil _), fun _ => ?_⟩
    rw [Document.dropCurrent, Inventory.dropCurrent_of_none absent,
      Document.withInventory_inventory]
    exact along
  · refine ⟨releaseCurrent_part held run along, fun same => ?_⟩
    subst same
    have ends := ends_of_keeps (releaseCurrent_current held) run along
    exact congrArg Moment.stored ends

section Parts

variable {final : Document} (works : StoreWorks (first ++ rest))
  (along : surroundings.Along (some document) (first ++ rest) (some final))

include works along

theorem fates_of_vm
    (vmRun : Consumed (ofDocument settings document).vmInstance (·.delete settings skipDrain) first
      (.ok ()))
    (gone : final.currentCid? .vm = none)
    (fates : StoreWorks rest → surroundings.Along (some document.withoutVm) rest (some final) →
      Fates settings document.withoutVm rest (some final) left result) :
    Fates settings document (first ++ rest) (some final) left result := by
  obtain ⟨worksEarly, worksLate⟩ := List.forall_mem_append.1 works
  obtain ⟨_, early, late⟩ := Conduct.along_append.1 along
  obtain ⟨part, done⟩ := consumed_vm vmRun early
  obtain rfl := done rfl
  exact (fates worksLate late).append (part worksEarly) early ⟨final, rfl, gone⟩

theorem fates_of_record {kind : Kind}
    (recordRun : Consumed (document.inventory kind).currentRecord? releaseCurrent first (.ok ()))
    (gone : final.currentCid? kind.resource = none)
    (fates : StoreWorks rest → surroundings.Along (some (document.dropCurrent kind)) rest
      (some final) → Fates settings (document.dropCurrent kind) rest (some final) left result) :
    Fates settings document (first ++ rest) (some final) left result := by
  obtain ⟨worksEarly, worksLate⟩ := List.forall_mem_append.1 works
  obtain ⟨_, early, late⟩ := Conduct.along_append.1 along
  obtain ⟨part, done⟩ := consumed_record recordRun early
  obtain rfl := done rfl
  exact (fates worksLate late).append (part worksEarly) early ⟨final, rfl, gone⟩

end Parts

theorem delete_fates
    (run : ((ofDocument settings document).delete settings skipDrain).Yields trace (left, result))
    (along : surroundings.Along (some document) trace after) (works : StoreWorks trace) :
    Fates settings document trace after left result := by
  obtain ⟨final, rfl, inStep⟩ := (ends_of_keeps delete_ofDocument run along).1
  -- What is left tells what is gone, for it is what a lookup finds in the end.
  have noVm : left.vmInstance = none → final.currentCid? .vm = none := by
    rw [inStep]
    exact Option.map_eq_none_iff.1
  have noDisk : left.disk = none → final.currentCid? .disk = none := by
    rw [inStep]
    exact Option.map_eq_none_iff.2
  have noStemcell : left.stemcell = none → final.currentCid? .stemcell = none := by
    rw [inStep]
    exact Option.map_eq_none_iff.2
  let withoutDisk := document.withoutVm.dropCurrent .disk
  cases delete_dismantles run with
  | atInstance vmRun => exact .error ((consumed_vm vmRun along).1 works)
  | @atDisk vm disk error vmRun diskRun =>
      have diskRun : Consumed (document.withoutVm.inventory .disk).currentRecord? releaseCurrent
          disk (.error error) := diskRun
      refine fates_of_vm works along vmRun (noVm rfl) fun worksLater later => ?_
      exact .error ((consumed_record diskRun later).1 worksLater)
  | @atStemcell vm disk stemcell error vmRun diskRun stemcellRun =>
      have stemcellRun : Consumed (withoutDisk.inventory .stemcell).currentRecord? releaseCurrent
          stemcell (.error error) := stemcellRun
      have handles : ({ stemcell := (ofDocument settings document).stemcell } : Deployment) =
          ofDocument settings withoutDisk := by
        rw [ofDocument_dropDisk, ofDocument_withoutVm]
      refine fates_of_vm works along vmRun (noVm rfl) fun worksLater later => ?_
      refine fates_of_record worksLater later diskRun (noDisk rfl) fun worksLast last => ?_
      rw [handles]
      exact .error ((consumed_record stemcellRun last).1 worksLast)
  | @complete vm disk stemcell vmRun diskRun stemcellRun =>
      have stemcellRun : Consumed (withoutDisk.inventory .stemcell).currentRecord? releaseCurrent
          stemcell (.ok ()) := stemcellRun
      refine fates_of_vm works along vmRun (noVm rfl) fun worksLater later => ?_
      refine fates_of_record worksLater later diskRun (noDisk rfl) fun worksLast last => ?_
      rw [← List.append_nil stemcell] at worksLast last ⊢
      exact fates_of_record worksLast last stemcellRun (noStemcell rfl) fun _ _ => .nil

end Deployment

theorem DeletionRun.aborted {target : Instance} {vm : Cid .vm} {refusal : CloudError}
    (run : DeletionRun target skipDrain trace result)
    (unread : ⟨.hasVm vm, .error refusal⟩ ∈ trace) :
    trace = [⟨.hasVm vm, .error refusal⟩] ∧ result = .error (.cloud refusal) := by
  obtain ⟨known, rest, same, free⟩ := run.checks
  rw [same] at unread
  rcases List.mem_cons.1 unread with checked | later
  · cases checked
    cases run with
    | unasked refusal =>
        cases same
        exact ⟨rfl, rfl⟩
    | unknown | unreachable | interrupted | emptied => cases same
  · exact absurd trivial (free _ later)

namespace Deployment

variable {deployment left : Deployment} {vm : Cid .vm} {refusal : CloudError}

theorem consumed_aborted
    (consumed : Consumed deployment.vmInstance (·.delete settings skipDrain) trace result)
    (unread : ⟨.hasVm vm, .error refusal⟩ ∈ trace) :
    trace = [⟨.hasVm vm, .error refusal⟩] ∧ result = .error (.cloud refusal) := by
  rcases consumed with ⟨_, rfl, _⟩ | ⟨target, _, run⟩
  · cases unread
  · exact (Instance.delete_yields run).aborted unread

theorem delete_aborted (run : (deployment.delete settings skipDrain).Yields trace (left, result))
    (unread : ⟨.hasVm vm, .error refusal⟩ ∈ trace) :
    trace = [⟨.hasVm vm, .error refusal⟩] ∧ left = deployment ∧
      result = .error (.cloud refusal) := by
  have unchecked : ∀ {kind : Kind} {handle : Option (Record kind)}
      {released : List (Event signature)} {outcome : Except LifecycleError Unit},
      Consumed handle releaseCurrent released outcome →
      ⟨.hasVm vm, .error refusal⟩ ∉ released := by
    intro kind handle released outcome consumed member
    have apart := calls_of_consumed (.inr ⟨outcome, consumed⟩) releaseCurrent_apart
    exact (apart _ member).2.1 trivial
  -- An instance that is gone was checked, and the check was answered.
  have answered : ∀ {instanceTrace : List (Event signature)},
      Consumed deployment.vmInstance (·.delete settings skipDrain) instanceTrace (.ok ()) →
      ⟨.hasVm vm, .error refusal⟩ ∉ instanceTrace :=
    fun consumed member => nomatch (consumed_aborted consumed member).2
  cases delete_dismantles run with
  | atInstance vmRun =>
      obtain ⟨same, ends⟩ := consumed_aborted vmRun unread
      exact ⟨same, rfl, ends⟩
  | atDisk vmRun diskRun =>
      rcases List.mem_append.1 unread with member | member
      · exact absurd member (answered vmRun)
      · exact absurd member (unchecked diskRun)
  | atStemcell vmRun diskRun stemcellRun | complete vmRun diskRun stemcellRun =>
      rcases List.mem_append.1 unread with member | member
      · exact absurd member (answered vmRun)
      · rcases List.mem_append.1 member with member | member
        · exact absurd member (unchecked diskRun)
        · exact absurd member (unchecked stemcellRun)

end Deployment

open CloudClient (Agrees Settles reply? rejection Says)

/-- What a reply of the provider makes of a record. -/
structure FollowsReply (settings : Settings) (resource : Resource)
    (reply : Option CloudWire.Response) (before final : Document) (late : List (Event signature))
    (left : Deployment) (result : Except LifecycleError Unit) : Prop where
  removed : final.currentCid? resource = none ↔ Agrees resource reply
  agreed : Agrees resource reply → ∃ recorded ended label outcome elapsed rest,
    late = recorded ++ ⟨.now, ended⟩ :: ⟨.stageEnded label outcome elapsed, ()⟩ :: rest ∧
    (∀ event ∈ recorded, event.request.IsStore) ∧
    surroundings.Along (some before) recorded (some (before.dropped resource)) ∧
    (reply.bind (·.failure) = none → outcome = .done) ∧
    (reply.bind (·.failure) ≠ none → ∃ reason, outcome = .skipped reason)
  refused : ¬ Agrees resource reply → ∃ error ended label elapsed,
    late = [⟨.now, ended⟩, ⟨.stageEnded label (.failed (.cloud error)) elapsed, ()⟩] ∧
    final = before ∧ left = Deployment.ofDocument settings before ∧
    result = .error (.cloud error) ∧ error.kind = rejection reply

theorem Fate.followsReply {before : Document} {reply : Option CloudWire.Response}
    {answer : Except CloudError Deletion} {late : List (Event signature)} {left : Deployment}
    (fate : Fate settings before resource after left result answer late)
    (current : before.currentCid? resource = some cid) (settles : Settles resource reply answer) :
    ∃ final, after = some final ∧
      FollowsReply settings resource reply before final late left result := by
  cases fate with
  | refused error ended label elapsed kept handles ends =>
      cases settles with
      | refused _ disagrees kind =>
          refine ⟨before, kept, ?_, fun agrees => absurd agrees disagrees, fun _ => ?_⟩
          · simp [current, disagrees]
          · exact ⟨error, ended, label, elapsed, rfl, rfl, handles, ends, kind⟩
  | @dropped deletion reason recorded rest storeOnly drops ended label elapsed gone =>
      obtain ⟨final, rfl, gone⟩ := gone
      have agrees := settles.agrees
      refine ⟨final, rfl, iff_of_true gone agrees, fun _ => ?_, fun not => absurd agrees not⟩
      refine ⟨recorded, ended, label, _, elapsed, rest, rfl, storeOnly, drops, ?_⟩
      cases settles with
      | deleted response same fine =>
          subst same
          exact ⟨fun _ => rfl, fun failed => absurd fine failed⟩
      | notFound response failure same failed unknown =>
          subst same
          refine ⟨fun fine => ?_, fun _ => ⟨reason, rfl⟩⟩
          cases failed.symm.trans fine

/-- What becomes of a record is up to the text that the executable of the provider leaves behind
when it is told to delete what the record stands for. -/
theorem record_fate_follows_reply {deployment left : Deployment} {initial : Option Document}
    {looking : List (Event signature)}
    (found : (Deployment.current? settings).run.Yields looking (.ok (some deployment)))
    (seen : surroundings.Along initial looking stored)
    (run : (deployment.delete settings skipDrain).Yields trace (left, result))
    (along : surroundings.Along stored trace after) :
    (StoreWorks trace → ∀ (client : CloudClient) execution status output complaints early
      (resource : Resource) (cid : Cid resource) answer late,
      trace = early ++ ⟨.delete resource cid, answer⟩ :: late →
      (client.delete resource cid).Yields [⟨.run execution, .ended status output complaints⟩]
        answer →
      ∃ before final, surroundings.Along stored early (some before) ∧ after = some final ∧
        before.currentCid? resource = some cid ∧
        FollowsReply settings resource (reply? output) before final late left result) ∧
    -- Whether there is the VM has to be told by a boolean.
    ∀ (client : CloudClient) execution outcome vm answer, ⟨.hasVm vm, answer⟩ ∈ trace →
      (client.hasVm vm).Yields [⟨.run execution, outcome⟩] answer →
      (∀ known, ¬ Says outcome known) →
      trace = [⟨.hasVm vm, answer⟩] ∧ left = deployment ∧ after = stored ∧
        ∃ error, answer = .error error ∧ result = .error (.cloud error) := by
  constructor
  · intro works client execution status output complaints early resource cid answer late same calls
    obtain ⟨document, rfl, rfl⟩ := Deployment.inStep_of_found found seen
    obtain ⟨before, earlier, current, fate⟩ :=
      Deployment.delete_fates run along works early resource cid answer late same
    obtain ⟨final, ends, follows⟩ := fate.followsReply current (CloudClient.delete_settles calls)
    exact ⟨before, final, earlier, ends, current, follows⟩
  · intro client execution outcome vm answer member calls unsaid
    cases answer with
    | ok known => exact absurd (CloudClient.says_of_hasVm calls) (unsaid known)
    | error refusal =>
        obtain ⟨rfl, same, ends⟩ := Deployment.delete_aborted run member
        obtain ⟨_, rfl, rfl⟩ := along
        exact ⟨rfl, same, rfl, refusal, rfl, ends⟩

/-- The executable has one text for both deletions, that there is no such disk. It settles what
becomes of the disk, but is no word about the stemcell. -/
theorem missing_disk_keeps_stemcell :
    ∃ (document final : Document) (output : List UInt8) (trace : List (Event signature))
      (left : Deployment) (result : Except LifecycleError Unit),
    (reply? output).bind (·.failure) = some ⟨"Bosh::Clouds::DiskNotFound", "", false⟩ ∧
    ((Deployment.ofDocument {} document).delete {} false).Yields trace (left, result) ∧
    surroundings.Along (some document) trace (some final) ∧
    document.currentCid? .disk = some ⟨"disk-1"⟩ ∧ final.currentCid? .disk = none ∧
    final.currentCid? .stemcell = some ⟨"stemcell-1"⟩ ∧ left = Deployment.ofDocument {} final ∧
    ∃ error, result = .error (.cloud error) ∧ error.kind = .notFound .disk := by
  let stemcell : Record .stemcell := ⟨⟨"id-2"⟩, ⟨"stemcell-1"⟩, {}⟩
  let diskless : Document := { stemcells := ⟨some ⟨"id-2"⟩, [stemcell]⟩ }
  let document : Document :=
    { diskless with disks := ⟨some ⟨"id-1"⟩, [⟨⟨"id-1"⟩, ⟨"disk-1"⟩, {}⟩]⟩ }
  let output : List UInt8 :=
    "\x7b\x22error\x22:\x7b\x22type\x22:\x22Bosh::Clouds::DiskNotFound\x22\x7d\x7d".toUTF8.toList
  let client : CloudClient := ⟨⟨"cpi"⟩, [], [], none, .zero⟩
  let refusal : CloudError := .provider "delete_stemcell" "Bosh::Clouds::DiskNotFound" "" false
  let diskLabel := "Deleting disk 'disk-1'"
  let stemcellLabel := "Deleting stemcell 'stemcell-1'"
  let early : List (Event signature) :=
    [⟨.store .load, .ok document⟩, ⟨.stageBegun diskLabel, ()⟩, ⟨.now, .zero⟩]
  let middle : List (Event signature) :=
    [⟨.store .load, .ok document⟩, ⟨.store (.save diskless), .ok ()⟩, ⟨.now, .zero⟩,
      ⟨.stageEnded diskLabel (.skipped "disk 'disk-1' not found") .zero, ()⟩,
      ⟨.store .load, .ok diskless⟩, ⟨.stageBegun stemcellLabel, ()⟩, ⟨.now, .zero⟩]
  let late : List (Event signature) :=
    [⟨.now, .zero⟩, ⟨.stageEnded stemcellLabel (.failed (.cloud refusal)) .zero, ()⟩]
  let trace : List (Event signature) := early ++ ⟨.delete .disk ⟨"disk-1"⟩, .ok .notFound⟩ ::
    (middle ++ ⟨.delete .stemcell ⟨"stemcell-1"⟩, .error refusal⟩ :: late)
  have run : ((Deployment.ofDocument {} document).delete {} false).Yields trace
      ({ stemcell := some stemcell }, .error (.cloud refusal)) := by
    repeat refine ⟨_, _, rfl, ?_⟩
    exact ⟨rfl, rfl⟩
  have along : surroundings.Along (some document) trace (some diskless) :=
    ⟨_, .loaded _, _, rfl, _, rfl, _, rfl, _, .loaded _, _, .saved _ _, _, rfl, _, rfl, _,
      .loaded _, _, rfl, _, rfl, _, rfl, _, rfl, _, rfl, rfl⟩
  have works : StoreWorks trace := by
    repeat
      refine List.forall_mem_cons.2 ⟨by first | exact fun _ => id | exact fun store _ => store, ?_⟩
    exact List.forall_mem_nil _
  have told : (reply? output).bind (·.failure) =
      some ⟨"Bosh::Clouds::DiskNotFound", "", false⟩ := by decide +kernel
  have diskAnswer : .ok .notFound = CloudClient.deletion .disk
      (client.result "delete_disk" (.ended 0 output [])) := by decide +kernel
  have stemcellAnswer : .error refusal = CloudClient.deletion .stemcell
      (client.result "delete_stemcell" (.ended 0 output [])) := by decide +kernel
  have fates := (record_fate_follows_reply Deployment.current?_lookingAt along_lookingAt run
    along).1 works client
  obtain ⟨_, _, _, ⟨⟩, held, ofDisk⟩ := fates _ 0 output [] early .disk ⟨"disk-1"⟩
    (.ok .notFound) _ rfl ⟨_, _, rfl, rfl, diskAnswer⟩
  obtain ⟨before, _, _, ⟨⟩, current, ofStemcell⟩ := fates _ 0 output []
    (early ++ ⟨.delete .disk ⟨"disk-1"⟩, .ok .notFound⟩ :: middle) .stemcell ⟨"stemcell-1"⟩
    (.error refusal) late rfl ⟨_, _, rfl, rfl, stemcellAnswer⟩
  obtain ⟨response, same, failed⟩ := Option.bind_eq_some_iff.1 told
  have agrees : Agrees .disk (reply? output) := by
    refine ⟨response, same, fun failure found => ?_⟩
    cases failed.symm.trans found
    rfl
  have disagrees : ¬ Agrees .stemcell (reply? output) := by
    rintro ⟨other, found, agrees⟩
    cases same.symm.trans found
    exact absurd (agrees _ failed) (by decide)
  obtain ⟨error, _, _, _, _, unchanged, kept, ends, kind⟩ := ofStemcell.refused disagrees
  rw [← unchanged] at current kept
  rw [rejection, told] at kind
  exact ⟨document, diskless, output, trace, _, _, told, run, along, rfl, ofDisk.removed.2 agrees,
    current, kept, error, ends, kind.trans (by decide)⟩

end Lifecycle

end DeploymentLifecycle
