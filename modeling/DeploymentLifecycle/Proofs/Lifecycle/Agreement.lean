import DeploymentLifecycle.Proofs.Lifecycle.Operation

namespace DeploymentLifecycle

theorem Kind.resource_injective : Function.Injective Kind.resource := by
  intro kind other same
  cases kind <;> cases other <;> first | rfl | cases same

theorem Kind.resource_ne_vm {kind : Kind} : kind.resource ≠ .vm := by
  cases kind <;> decide

namespace Lifecycle

/-! Records are dropped when the provider has agreed to delete what they stand for, and only
then. -/

open Store (Finds content)

theorem Asset.cid_eq {kind : Kind} {cid other : Cid kind.resource}
    (same : (⟨kind.resource, cid⟩ : Asset) = ⟨kind.resource, other⟩) : cid = other :=
  eq_of_heq (Asset.mk.inj same).2

/-- How an operation that began with the document `start` accounts for its records. Those that are
missing were agreed to be deleted, and after a success those that were agreed to be deleted are
missing. -/
structure Audit (start : Document) (result : Except LifecycleError Unit) (moment : Moment) :
    Prop where
  distinct : (content moment.stored).Distinct
  missing : ∀ kind, ∀ record ∈ (start.inventory kind).records,
    record ∉ ((content moment.stored).inventory kind).records →
      ⟨kind.resource, record.cid⟩ ∈ moment.agreed
  settled : result = .ok () → ∀ kind, ∀ record ∈ ((content moment.stored).inventory kind).records,
    ⟨kind.resource, record.cid⟩ ∉ moment.agreed

namespace Audit

variable {start document : Document} {result : Except LifecycleError Unit} {moment : Moment}
  {kind : Kind} {record : Record kind} {stored : Option Document} {agreed : List Asset}

theorem begin (distinct : (content stored).Distinct) :
    Audit (content stored) (.ok ()) ⟨stored, []⟩ where
  distinct := distinct
  missing _ _ member absent := absurd member absent
  settled _ _ _ _ := by simp

theorem anyhow (audit : Audit start (.ok ()) moment) : Audit start result moment :=
  { audit with settled := fun _ => audit.settled rfl }

theorem of_records {now : Moment} (audit : Audit start result moment)
    (same : ∀ kind, (content now.stored).inventory kind = (content moment.stored).inventory kind)
    (grown : ∀ kind cid,
      ⟨Kind.resource kind, cid⟩ ∈ now.agreed ↔ ⟨kind.resource, cid⟩ ∈ moment.agreed) :
    Audit start result now where
  distinct kind := by
    rw [same]
    exact audit.distinct kind
  missing kind record member absent := by
    rw [same] at absent
    exact (grown kind record.cid).2 (audit.missing kind record member absent)
  settled success kind record member := by
    rw [same] at member
    rw [grown]
    exact audit.settled success kind record member

theorem load (audit : Audit start result moment) (finds : Finds moment.stored document) :
    Audit start result ⟨some document, moment.agreed⟩ :=
  audit.of_records (fun _ => finds.inventory) fun _ _ => Iff.rfl

theorem vmAgreed (vm : Cid .vm) (audit : Audit start result moment) :
    Audit start result ⟨moment.stored, moment.agreed ++ [⟨.vm, vm⟩]⟩ := by
  refine audit.of_records (fun _ => rfl) fun kind cid => ?_
  have other : (⟨kind.resource, cid⟩ : Asset) ≠ ⟨.vm, vm⟩ :=
    fun same => Kind.resource_ne_vm (Asset.mk.inj same).1
  simp [other]

theorem vmCleared {vm : Cid .vm} (audit : Audit start result moment)
    (finds : Finds moment.stored document) :
    Audit start result
      ⟨some { document with currentVm := none }, moment.agreed ++ [⟨.vm, vm⟩]⟩ := by
  refine (audit.vmAgreed vm).of_records (fun kind => ?_) fun _ _ => Iff.rfl
  exact Document.inventory_withCurrentVm.trans finds.inventory

/-- An agreement that is not acted on leaves a record behind, which only a failure may do. -/
theorem unrecorded {error : LifecycleError} {agreement : Asset}
    (audit : Audit start (.ok ()) ⟨stored, agreed⟩) :
    Audit start (.error error) ⟨stored, agreed ++ [agreement]⟩ where
  distinct := audit.distinct
  missing kind record member absent :=
    List.mem_append_left _ (audit.missing kind record member absent)
  settled := nofun

theorem erase (audit : Audit start (.ok ()) ⟨some document, agreed⟩)
    (member : record ∈ (document.inventory kind).records) :
    Audit start (.ok ()) ⟨some (document.withInventory ((document.inventory kind).erase record.id)),
      agreed ++ [⟨kind.resource, record.cid⟩]⟩ where
  distinct := audit.distinct.withInventory (audit.distinct kind).erase
  missing other held heldMember absent := by
    by_cases before : held ∈ (document.inventory other).records
    · by_cases same : other = kind
      · subst other
        -- What is missing has the id that was dropped, so it is the record that was agreed about.
        have dropped : held.id = record.id := by simpa [before] using absent
        obtain rfl := Inventory.eq_of_id (audit.distinct kind).ids before member dropped
        simp
      · rw [Store.content_some, Document.inventory_withInventory_of_ne same] at absent
        exact absurd before absent
    · exact List.mem_append_left _ (audit.missing other held heldMember before)
  settled _ other held left := by
    rw [List.mem_append, List.mem_singleton]
    by_cases same : other = kind
    · subst other
      obtain ⟨before, different⟩ :
          held ∈ (document.inventory kind).records ∧ held.id ≠ record.id := by
        simpa using left
      intro told
      rcases told with already | now
      · exact audit.settled rfl kind held before already
      · have sameCid := Asset.cid_eq now
        obtain rfl := List.inj_on_of_nodup_map (audit.distinct kind).cids before member sameCid
        exact different rfl
    · rw [Store.content_some, Document.inventory_withInventory_of_ne same] at left
      intro told
      rcases told with already | now
      · exact audit.settled rfl other held left already
      · exact same (Kind.resource_injective (Asset.mk.inj now).1)

end Audit

section Releases

variable {start : Document} {moment : Moment} {kind : Kind}
  {mayDelete : Moment → (resource : Resource) → Cid resource → Prop}

theorem release_audit {label : String} {record : Record kind} {document : Document}
    {agreed : List Asset} (audit : Audit start (.ok ()) ⟨some document, agreed⟩)
    (member : record ∈ (document.inventory kind).records)
    (allowed : mayDelete ⟨some document, agreed⟩ kind.resource record.cid) :
    (release label record).run.Keeps (terms mayDelete) ⟨some document, agreed⟩ fun result after =>
      Audit start result after ∧ (result = .ok () → after.stored =
        some (document.withInventory ((document.inventory kind).erase record.id))) := by
  apply release_keeps allowed
  · exact fun error => ⟨audit.anyhow, nofun⟩
  · exact fun error => ⟨audit.unrecorded, nofun⟩
  · exact ⟨audit.erase member, fun _ => rfl⟩

/-- A release by a handle takes the CID to delete from the stored document, not from the handle. -/
theorem releaseCurrent_audit {record : Record kind} (audit : Audit start (.ok ()) moment)
    (allowed : ∀ document agreed, ∀ current ∈ (document.inventory kind).records,
      (document.inventory kind).current = some current.id →
        mayDelete ⟨some document, agreed⟩ kind.resource current.cid) :
    (releaseCurrent record).run.Keeps (terms mayDelete) moment (Audit start) := by
  apply releaseCurrent_keeps (fun _ => audit.anyhow) fun _ finds _ => audit.load finds
  intro label document current finds isCurrent _
  obtain ⟨member, pointer⟩ := Inventory.currentRecord?_eq_some isCurrent
  have nowAllowed := allowed document moment.agreed current member pointer
  exact (release_audit (audit.load finds) member nowAllowed).weaken fun _ _ => And.left

theorem Instance.delete_audit {target : Instance} {settings : Settings} {skipDrain : Bool}
    (audit : Audit start (.ok ()) moment) (allowed : mayDelete moment .vm target.vm) :
    (target.delete settings skipDrain).run.Keeps (terms mayDelete) moment (Audit start) :=
  Instance.delete_keeps allowed (fun _ => audit.anyhow) (fun _ => audit.unrecorded)
    fun _ finds => audit.vmCleared finds

/-- The records that a round of releases has still to go through are unused ones, each with an id of
its own, so dropping one of them leaves the others where they are. -/
structure ToRelease (start : Document) (records : List (Record kind)) (moment : Moment) : Prop where
  audit : Audit start (.ok ()) moment
  ids : (records.map (·.id)).Nodup
  unused : ∀ record ∈ records, record ∈ ((content moment.stored).inventory kind).unused

theorem releaseUnused_audit (audit : Audit start (.ok ()) moment)
    (allowed : ∀ document agreed, ∀ record ∈ (document.inventory kind).unused,
      mayDelete ⟨some document, agreed⟩ kind.resource record.cid) :
    (releaseUnused kind).run.Keeps (terms mayDelete) moment (Audit start) := by
  rw [releaseUnused, ExceptT.run_bind, Prog.keeps_bind]
  refine keeps_stored (Records.unused_keeps (fun _ => audit.anyhow) fun document finds => ?_)
  have loaded := audit.load finds
  have ids : ((document.inventory kind).unused.map (·.id)).Nodup :=
    (loaded.distinct kind).ids.sublist (List.filter_sublist.map _)
  -- The list is read once, before the first release. What carries the loop is that the records
  -- still to come stay there and stay unused.
  have begun : ToRelease start (document.inventory kind).unused ⟨some document, moment.agreed⟩ :=
    ⟨loaded, ids, fun _ listed => listed⟩
  refine Prog.keeps_forM (ToRelease start) begun ?_ fun now done => done.audit
  intro record rest now left
  obtain ⟨stored, agreed⟩ := now
  obtain ⟨audit, ids, unused⟩ := left
  have listed := unused record (by simp)
  have member := (Inventory.mem_unused.1 listed).1
  obtain ⟨document, rfl⟩ := Store.exists_of_recorded member
  have nowAllowed := allowed document agreed record listed
  refine (release_audit audit member nowAllowed).byResult ?_ fun _ _ ends => ends.1
  intro _ after ends
  obtain ⟨_, grown⟩ := after
  obtain ⟨after, dropped⟩ := ends
  obtain rfl := dropped rfl
  rw [List.map_cons, List.nodup_cons] at ids
  refine ⟨after, ids.2, fun other otherMember => ?_⟩
  have different : other.id ≠ record.id :=
    fun same => ids.1 (same ▸ List.mem_map_of_mem otherMember)
  simpa using Inventory.mem_unused_erase (unused other (by simp [otherMember])) different

end Releases

namespace Operation

/-- Whether an operation may have the resource of this CID deleted: that of the record which the
pointer names, or that of one which it does not name. -/
def MayRelease (operation : Operation) (kind : Kind) (document : Document)
    (cid : Cid kind.resource) : Prop :=
  match operation with
  | .delete .. | .releaseCurrent _ => ∃ record ∈ (document.inventory kind).records,
      (document.inventory kind).current = some record.id ∧ record.cid = cid
  | .releaseUnused _ | .cleanup => ∃ record ∈ (document.inventory kind).records,
      (document.inventory kind).current ≠ some record.id ∧ record.cid = cid
  | _ => False

def mayDelete (operation : Operation) (moment : Moment) :
    (resource : Resource) → Cid resource → Prop
  | .vm, _ => True
  | .disk, cid => operation.MayRelease .disk (content moment.stored) cid
  | .stemcell, cid => operation.MayRelease .stemcell (content moment.stored) cid

variable {operation : Operation} {moment : Moment} {kind : Kind} {start : Document}
  {stored : Option Document}

theorem mayDelete_resource {cid : Cid kind.resource} :
    operation.mayDelete moment kind.resource cid ↔
      operation.MayRelease kind (content moment.stored) cid := by
  cases kind <;> rfl

theorem releaseCurrent_audit {record : Record kind} (audit : Audit start (.ok ()) moment)
    (allowed : ∀ document : Document, ∀ current ∈ (document.inventory kind).records,
      (document.inventory kind).current = some current.id →
        operation.MayRelease kind document current.cid) :
    (Lifecycle.releaseCurrent record).run.Keeps (terms operation.mayDelete) moment
      (Audit start) := by
  apply Lifecycle.releaseCurrent_audit audit
  intro document agreed current member pointer
  exact mayDelete_resource.2 (allowed document current member pointer)

theorem releaseUnused_audit (audit : Audit start (.ok ()) moment)
    (allowed : ∀ document : Document, ∀ record ∈ (document.inventory kind).records,
      (document.inventory kind).current ≠ some record.id →
        operation.MayRelease kind document record.cid) :
    (Lifecycle.releaseUnused kind).run.Keeps (terms operation.mayDelete) moment
      (Audit start) := by
  apply Lifecycle.releaseUnused_audit audit
  intro document agreed record listed
  obtain ⟨member, unnamed⟩ := Inventory.mem_unused.1 listed
  exact mayDelete_resource.2 (allowed document record member unnamed)

/-- Every operation can account for the records that are gone when it ends, however it ends. -/
theorem keeps_audit (operation : Operation) (settings : Settings)
    (distinct : (content stored).Distinct) :
    (operation.program settings).run.Keeps (terms operation.mayDelete) ⟨stored, []⟩
      (Audit (content stored)) := by
  have begun := Audit.begin distinct
  cases operation with
  | lookUp | status | stop | start =>
      exact Prog.Keeps.weaken (keeps_idle (by trivial) begun fun _ => begun.load)
        fun _ _ => Audit.anyhow
  | delete deployment skipDrain =>
      let settled := Audit (content stored) (.ok ())
      have released : ∀ {kind : Kind} (now : Moment) (record : Record kind), settled now →
          (Lifecycle.releaseCurrent record).run.Keeps
            (terms (delete deployment skipDrain).mayDelete) now (Audit (content stored)) :=
        fun _ _ audit => releaseCurrent_audit audit
          fun _ current member pointer => ⟨current, member, pointer, rfl⟩
      apply Prog.keeps_bind.2
      apply Deployment.delete_keeps settled settled
      · exact fun _ => begun
      · exact fun target _ => (Instance.delete_audit begun trivial).byResult
          (fun _ _ audit => audit) fun _ _ audit => audit
      · exact fun _ audit _ => audit
      · exact fun now record audit _ => (released now record audit).byResult
          (fun _ _ audit => audit) fun _ _ audit => audit
      · exact fun _ audit _ => audit
      · exact fun now record audit _ => (released now record audit).byResult
          (fun _ _ audit => audit) fun _ _ audit => audit
  | deleteInstance target skipDrain => exact Instance.delete_audit begun trivial
  | releaseCurrent record =>
      exact releaseCurrent_audit begun
        fun _ current member pointer => ⟨current, member, pointer, rfl⟩
  | releaseUnused kind =>
      exact releaseUnused_audit begun fun _ record member unnamed => ⟨record, member, unnamed, rfl⟩
  | cleanup =>
      have released : ∀ {kind : Kind} {now : Moment}, Audit (content stored) (.ok ()) now →
          (Lifecycle.releaseUnused kind).run.Keeps (terms cleanup.mayDelete) now
            (Audit (content stored)) :=
        fun audit => releaseUnused_audit audit
          fun _ record member unnamed => ⟨record, member, unnamed, rfl⟩
      exact (released begun).exceptBind (fun _ _ audit => released audit) fun _ _ audit => audit

end Operation

variable {initial before after : Option Document}

theorem History.distinct (history : History initial before)
    (distinct : (content initial).Distinct) : (content before).Distinct := by
  induction history with
  | start => exact distinct
  | operation _ settings operation run along ih =>
      exact (ends_of_keeps (operation.keeps_audit settings ih) run along).distinct
  | step _ step run along ih =>
      exact (step.keeps Document.distinct_preserved ih).ends run along

/-- A record is gone after an operation only if the provider agreed to delete what it stands for,
and when the operation succeeds, whatever the provider agreed to delete is not recorded any more. A
deletion is asked for only by the CID of a record that is there at that moment: the one that the
pointer names, or one that it does not name, as the operation has it. -/
theorem records_released_as_agreed {settings : Settings} {operation : Operation}
    {trace : List (Event signature)} {result : Except LifecycleError Unit}
    (distinct : (content initial).Distinct) (history : History initial before)
    (run : (operation.program settings).run.Yields trace result)
    (along : surroundings.Along before trace after) :
    (∀ kind, ∀ record ∈ ((content before).inventory kind).records,
      record ∉ ((content after).inventory kind).records →
        ∃ deletion, ⟨.delete kind.resource record.cid, .ok deletion⟩ ∈ trace) ∧
    (result = .ok () → ∀ kind, ∀ record ∈ ((content after).inventory kind).records, ∀ deletion,
      ⟨.delete kind.resource record.cid, .ok deletion⟩ ∉ trace) ∧
    (∀ kind cid answer early late now,
      trace = early ++ ⟨.delete (Kind.resource kind) cid, answer⟩ :: late →
      surroundings.Along before early now → operation.MayRelease kind (content now) cid) ∧
    (content after).Distinct := by
  have audited := operation.keeps_audit settings (history.distinct distinct)
  have audit := ends_of_keeps audited run along
  refine ⟨fun kind record member absent => ?_,
    fun success kind record member deletion agreed => ?_, ?_, audit.distinct⟩
  · exact mem_agreements.1 (audit.missing kind record member absent)
  · exact audit.settled success kind record member (mem_agreements.2 ⟨deletion, agreed⟩)
  · intro kind cid answer early late now same earlier
    subst same
    exact Operation.mayDelete_resource.1 (mayDelete_of_keeps audited run earlier)

def twoDisks : Document where
  disks := ⟨some ⟨"new"⟩, [⟨⟨"old"⟩, ⟨"disk-1"⟩, {}⟩, ⟨⟨"new"⟩, ⟨"disk-2"⟩, {}⟩]⟩

theorem twoDisks_distinct : (content (some twoDisks)).Distinct := by
  intro kind
  cases kind <;> exact ⟨by decide, by decide⟩

theorem unused_disk_released : ∃ trace after deletion,
    ((Operation.releaseUnused .disk).program {}).run.Yields trace (.ok ()) ∧
      surroundings.Along (some twoDisks) trace after ∧
      ⟨.delete .disk ⟨"disk-1"⟩, .ok deletion⟩ ∈ trace := by
  let label := "Deleting unused disk 'disk-1'"
  let cleared : Document := { disks := ⟨some ⟨"new"⟩, [⟨⟨"new"⟩, ⟨"disk-2"⟩, {}⟩]⟩ }
  let trace : List (Event signature) := [⟨.store .load, .ok twoDisks⟩, ⟨.stageBegun label, ()⟩,
    ⟨.now, .zero⟩, ⟨.delete .disk ⟨"disk-1"⟩, .ok .deleted⟩, ⟨.store .load, .ok twoDisks⟩,
    ⟨.store (.save cleared), .ok ()⟩, ⟨.now, .zero⟩, ⟨.stageEnded label .done .zero, ()⟩]
  have run : ((Operation.releaseUnused .disk).program {}).run.Yields trace (.ok ()) :=
    ⟨_, _, rfl, _, _, rfl, _, _, rfl, _, _, rfl, _, _, rfl, _, _, rfl, _, _, rfl, _, _, rfl,
      rfl, rfl⟩
  have along : surroundings.Along (some twoDisks) trace (some cleared) :=
    ⟨_, .loaded _, _, rfl, _, rfl, _, rfl, _, .loaded _, _, .saved _ _, _, rfl, _, rfl, rfl⟩
  have missing := (records_released_as_agreed twoDisks_distinct .start run along).1
  have absent : (⟨⟨"old"⟩, ⟨"disk-1"⟩, {}⟩ : Record .disk) ∉ cleared.disks.records := by
    simp [cleared]
  obtain ⟨deletion, agreed⟩ := missing .disk _ (List.mem_cons_self ..) absent
  exact ⟨trace, some cleared, deletion, run, along, agreed⟩

end Lifecycle

end DeploymentLifecycle
