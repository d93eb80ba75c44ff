import DeploymentLifecycle.Proofs.Lifecycle.Narrative
import DeploymentLifecycle.Proofs.Lifecycle.Readers
import DeploymentLifecycle.Proofs.State.Dropped

namespace DeploymentLifecycle.Lifecycle

/-! What a cleanup does and leaves, wherever it ends. -/

/-- A sweep over entries, and those that it has dropped. It releases one after the other, until one
cannot be released or none is left. -/
inductive Sweep (entries : List Entry) :
    List (Event signature) → Except LifecycleError Unit → List Entry → Prop
  | completed {trace : List (Event signature)} (fine : ∀ event ∈ trace, ¬ Fails event)
      (order : deletions trace = entries.map (·.record.asset)) :
      Sweep entries trace (.ok ()) entries
  | stopped {done rest : List Entry} {entry : Entry} {first stage : List (Event signature)}
      {error : LifecycleError} (split : entries = done ++ entry :: rest)
      (fine : ∀ event ∈ first, ¬ Fails event)
      (order : deletions first = done.map (·.record.asset))
      (last : DeletionStage entry.record.cid (Records.delete entry.record.id) stage (.error error))
      (blamed : ∃ event ∈ stage, refusal? event = some error) :
      Sweep entries (first ++ stage) (.error error) done

section Sweep

variable {entries done gone : List Entry} {first trace : List (Event signature)}
  {result : Except LifecycleError Unit}

theorem Sweep.prepend (fine : ∀ event ∈ first, ¬ Fails event)
    (order : deletions first = done.map (·.record.asset))
    (sweep : Sweep entries trace result gone) :
    Sweep (done ++ entries) (first ++ trace) result (done ++ gone) := by
  have orders : ∀ {later : List (Event signature)} {others : List Entry},
      deletions later = others.map (·.record.asset) →
        deletions (first ++ later) = (done ++ others).map (·.record.asset) := by
    intro later others same
    rw [deletions_append, order, same, List.map_append]
  cases sweep with
  | completed later same => exact .completed (List.forall_mem_append.2 ⟨fine, later⟩) (orders same)
  | stopped split later same last blamed =>
      rw [split, ← List.append_assoc, ← List.append_assoc]
      exact .stopped rfl (List.forall_mem_append.2 ⟨fine, later⟩) (orders same) last blamed

theorem Sweep.extend {error : LifecycleError} (more : List Entry)
    (sweep : Sweep entries trace (.error error) gone) :
    Sweep (entries ++ more) trace (.error error) gone := by
  cases sweep with
  | stopped split fine order last blamed =>
      rw [split, List.append_assoc, List.cons_append]
      exact .stopped rfl fine order last blamed

theorem Sweep.subset (sweep : Sweep entries trace result gone) : gone ⊆ entries := by
  cases sweep with
  | completed => exact List.Subset.refl _
  | stopped split =>
      rw [split]
      exact List.subset_append_left _ _

end Sweep

section Release

variable {kind : Kind} {record : Record kind} {label : String} {left : Document}
  {after : Option Document} {trace : List (Event signature)} {result : Except LifecycleError Unit}

theorem deletions_of_stage {resource : Resource} {cid : Cid resource}
    {program : Store.Program Unit} (stage : DeletionStage cid program trace result) :
    deletions trace = [⟨resource, cid⟩] := by
  have storeOnly : (stored program).run.Asks Request.IsStore := stored_asks fun _ => trivial
  cases stage with
  | @told _ _ _ _ recorded ended outcome recording =>
      have none : deletions recorded = [] := by
        cases recording with
        | refused => rfl
        | recorded _ runs | unrecorded _ runs => exact deletions_of_store (storeOnly.trace runs)
      change ⟨resource, cid⟩ :: deletions (recorded ++ _) = _
      rw [deletions_append, none]
      rfl

theorem delete_blamed {id : RecordId kind} {error : LifecycleError}
    (run : (stored (Records.delete id)).run.Yields trace (.error error)) :
    ∃ event ∈ trace, refusal? event = some error := by
  obtain ⟨answer, _, rfl, run⟩ := run
  cases answer with
  | error cause =>
      obtain ⟨rfl, same⟩ := run
      cases same
      exact ⟨_, .head _, rfl⟩
  | ok document =>
      by_cases mentioned : (document.inventory kind).mentions id
      · simp only [Prog.bind, ExceptT.bindCont, if_pos mentioned] at run
        obtain ⟨reply, _, rfl, run⟩ := run
        cases reply with
        | ok _ => cases run.2
        | error cause =>
            obtain ⟨rfl, same⟩ := run
            cases same
            exact ⟨_, .tail _ (.head _), rfl⟩
      · simp only [Prog.bind, ExceptT.bindCont, if_neg mentioned] at run
        cases run.2

theorem stage_blamed {cid : Cid kind.resource} {id : RecordId kind} {error : LifecycleError}
    (stage : DeletionStage cid (Records.delete id) trace (.error error)) :
    ∃ event ∈ trace, refusal? event = some error := by
  generalize same : Except.error error = result at stage
  cases stage with
  | told label reason started ended recording =>
      cases recording with
      | refused refusal =>
          cases same
          exact ⟨_, .tail _ (.tail _ (.head _)), rfl⟩
      | recorded => cases same
      | unrecorded deletion runs =>
          cases same
          obtain ⟨event, member, blamed⟩ := delete_blamed runs
          exact ⟨event, by simp [member], blamed⟩

theorem release_outcome (run : (release label record).run.Yields trace result)
    (along : surroundings.Along (some left) trace after) :
    DeletionStage record.cid (Records.delete record.id) trace result ∧
      ((result = .ok () ∧ after = some (left.drop ⟨kind, record⟩) ∧
          ∀ event ∈ trace, ¬ Fails event) ∨
        ∃ error, result = .error error ∧ after = some left) := by
  have keeps : (release label record).run.Keeps freely ⟨some left, []⟩ (Prog.ByResult
      (fun _ now => now.stored = some (left.drop ⟨kind, record⟩))
      fun _ now => now.stored = some left) := by
    apply release_keeps trivial
    · exact fun _ => rfl
    · exact fun _ => rfl
    · rfl
  have ends := ends_of_keeps keeps run along
  refine ⟨release_stage run, ?_⟩
  cases result with
  | ok value => exact .inl ⟨rfl, ends, (release_stops.success_iff run).1 rfl⟩
  | error error => exact .inr ⟨error, rfl, ends⟩

/-- The store is left without the entries that the sweep has dropped. -/
theorem sweep_of_forM {label : Record kind → String} {records : List (Record kind)}
    (run : (records.forM fun record => release (label record) record).run.Yields trace result)
    (along : surroundings.Along (some left) trace after) :
    ∃ gone, after = some (left.dropAll gone) ∧
      Sweep (records.map (Entry.mk kind)) trace result gone := by
  induction records generalizing left trace with
  | nil =>
      obtain ⟨rfl, rfl⟩ := run
      exact ⟨[], along, .completed (List.forall_mem_nil _) rfl⟩
  | cons record rest ih =>
      let entry : Entry := ⟨kind, record⟩
      rcases Prog.yields_exceptBind.1 run with
        ⟨error, rfl, failing⟩ | ⟨_, first, later, rfl, releasing, sweeping⟩
      · obtain ⟨last, ⟨same, _⟩ | ⟨_, _, same⟩⟩ := release_outcome failing along
        · cases same
        · have split : (record :: rest).map (Entry.mk kind) = [] ++ entry :: rest.map _ := rfl
          exact ⟨[], same, .stopped split (List.forall_mem_nil _) rfl last (stage_blamed last)⟩
      · obtain ⟨middle, begins, onward⟩ := Conduct.along_append.1 along
        obtain ⟨stage, ⟨_, rfl, fine⟩ | ⟨_, same, _⟩⟩ := release_outcome releasing begins
        · obtain ⟨gone, ends, sweep⟩ := ih sweeping onward
          have order : deletions first = [entry].map (·.record.asset) := deletions_of_stage stage
          exact ⟨entry :: gone, ends, sweep.prepend fine order⟩
        · cases same

theorem unused_yields {listed : Except LifecycleError (List (Record kind))}
    (run : (stored (Records.unused kind)).run.Yields trace listed)
    (along : surroundings.Along (some left) trace after) : after = some left ∧
      ((∃ error, trace = [⟨.store .load, .error error⟩] ∧ listed = .error (.state error)) ∨
        trace = [⟨.store .load, .ok left⟩] ∧ listed = .ok (left.inventory kind).unused) := by
  obtain ⟨answer, _, rfl, run⟩ := run
  obtain ⟨middle, step, along⟩ := along
  cases step with
  | loaded =>
      obtain ⟨rfl, rfl⟩ := run
      exact ⟨along, .inr ⟨rfl, rfl⟩⟩
  | notLoaded _ error =>
      obtain ⟨rfl, rfl⟩ := run
      exact ⟨along, .inl ⟨error, rfl, rfl⟩⟩

theorem releaseUnused_outcome (run : (releaseUnused kind).run.Yields trace result)
    (along : surroundings.Along (some left) trace after) :
    (∃ error, trace = [⟨.store .load, .error error⟩] ∧ result = .error (.state error) ∧
        after = some left) ∨
      ∃ gone, after = some (left.dropAll gone) ∧
        Sweep (left.inventory kind).unusedEntries trace result gone := by
  rcases Prog.yields_exceptBind.1 run with
    ⟨error, rfl, failing⟩ | ⟨records, listing, later, rfl, listed, sweeping⟩
  · obtain ⟨same, ⟨cause, rfl, failed⟩ | ⟨_, done⟩⟩ := unused_yields failing along
    · cases failed
      exact .inl ⟨cause, rfl, rfl, same⟩
    · cases done
  · obtain ⟨middle, first, onward⟩ := Conduct.along_append.1 along
    obtain ⟨rfl, ⟨_, _, failed⟩ | ⟨rfl, done⟩⟩ := unused_yields listed first
    · cases failed
    · cases done
      obtain ⟨gone, ends, sweep⟩ := sweep_of_forM sweeping onward
      have order : deletions [⟨.store .load, .ok left⟩] =
          ([] : List Entry).map (·.record.asset) := rfl
      exact .inr ⟨gone, ends, sweep.prepend (List.forall_mem_singleton.2 id) order⟩

/-- Where nothing is unused, nothing but the document is asked for. -/
theorem releaseUnused_idle (nothing : (left.inventory kind).unused = [])
    (run : (releaseUnused kind).run.Yields trace result)
    (along : surroundings.Along (some left) trace after) :
    after = some left ∧ ∀ event ∈ trace, event.request = .store .load := by
  rcases Prog.yields_exceptBind.1 run with
    ⟨error, rfl, failing⟩ | ⟨records, listing, later, rfl, listed, sweeping⟩
  · obtain ⟨same, ⟨_, rfl, _⟩ | ⟨rfl, _⟩⟩ := unused_yields failing along
    · exact ⟨same, List.forall_mem_singleton.2 rfl⟩
    · exact ⟨same, List.forall_mem_singleton.2 rfl⟩
  · obtain ⟨middle, first, onward⟩ := Conduct.along_append.1 along
    obtain ⟨rfl, ⟨_, _, failed⟩ | ⟨rfl, done⟩⟩ := unused_yields listed first
    · cases failed
    · cases done
      rw [nothing] at sweeping
      obtain ⟨rfl, rfl⟩ := sweeping
      exact ⟨onward, List.forall_mem_singleton.2 rfl⟩

end Release

/-- The unused entries that a cleanup releases before it lists those of a kind. -/
def unusedBefore (document : Document) : Kind → List Entry
  | .disk => []
  | .stemcell => (document.inventory .disk).unusedEntries

/-- What a cleanup does, and the entries that it has dropped. It is one sweep over all that is
unused, unless it cannot list what is unused of a kind. -/
inductive CleanupCourse (document : Document) :
    List (Event signature) → Except LifecycleError Unit → List Entry → Prop
  | swept {trace : List (Event signature)} {result : Except LifecycleError Unit}
      {gone : List Entry} (sweep : Sweep document.unusedEntries trace result gone) :
      CleanupCourse document trace result gone
  | unlisted (kind : Kind) {first : List (Event signature)} {error : StateError}
      (fine : ∀ event ∈ first, ¬ Fails event)
      (order : deletions first = (unusedBefore document kind).map (·.record.asset)) :
      CleanupCourse document (first ++ [⟨.store .load, .error error⟩]) (.error (.state error))
        (unusedBefore document kind)

section Cleanup

variable {document : Document} {after : Option Document} {trace : List (Event signature)}
  {result : Except LifecycleError Unit} {gone : List Entry}

theorem CleanupCourse.subset (course : CleanupCourse document trace result gone) :
    gone ⊆ document.unusedEntries := by
  cases course with
  | swept sweep => exact sweep.subset
  | unlisted kind =>
      cases kind with
      | disk => exact List.nil_subset _
      | stemcell => exact List.subset_append_left _ _

theorem CleanupCourse.all_gone (course : CleanupCourse document trace (.ok ()) gone) :
    gone = document.unusedEntries := by
  cases course with
  | swept sweep =>
      cases sweep with
      | completed => rfl

theorem cleanup_course (run : cleanup.run.Yields trace result)
    (along : surroundings.Along (some document) trace after) :
    ∃ gone, after = some (document.dropAll gone) ∧ CleanupCourse document trace result gone := by
  rcases Prog.yields_exceptBind.1 run with
    ⟨error, rfl, failing⟩ | ⟨_, first, later, rfl, disks, stemcells⟩
  · rcases releaseUnused_outcome failing along with ⟨cause, rfl, same, rfl⟩ | ⟨gone, rfl, sweep⟩
    · cases same
      exact ⟨[], rfl, .unlisted .disk (List.forall_mem_nil _) rfl⟩
    · exact ⟨gone, rfl, .swept (sweep.extend _)⟩
  · obtain ⟨middle, begins, onward⟩ := Conduct.along_append.1 along
    rcases releaseUnused_outcome disks begins with ⟨_, _, same, _⟩ | ⟨swept, rfl, sweep⟩
    · cases same
    · cases sweep with
      | completed fine order =>
          -- The disks that are gone leave the stemcells as they were, so that both sweeps are one
          -- over the document as it was found.
          have stemcellsLeft : (document.dropAll (document.inventory .disk).unusedEntries).inventory
              .stemcell = document.inventory .stemcell := by
            apply Document.inventory_dropAll
            intro entry member
            obtain ⟨_, _, rfl⟩ := List.mem_map.1 member
            nofun
          rcases releaseUnused_outcome stemcells onward with
            ⟨cause, rfl, rfl, rfl⟩ | ⟨gone, rfl, sweep⟩
          · exact ⟨_, rfl, .unlisted .stemcell fine order⟩
          · rw [stemcellsLeft] at sweep
            exact ⟨_, congrArg some Document.dropAll_append.symm,
              .swept (sweep.prepend fine order)⟩

theorem cleanup_idle (nothing : ∀ kind, (document.inventory kind).unused = [])
    (run : cleanup.run.Yields trace result)
    (along : surroundings.Along (some document) trace after) :
    after = some document ∧ ∀ event ∈ trace, event.request = .store .load := by
  rcases Prog.yields_exceptBind.1 run with
    ⟨error, rfl, failing⟩ | ⟨_, first, later, rfl, disks, stemcells⟩
  · exact releaseUnused_idle (nothing .disk) failing along
  · obtain ⟨middle, begins, onward⟩ := Conduct.along_append.1 along
    obtain ⟨rfl, looks⟩ := releaseUnused_idle (nothing .disk) disks begins
    obtain ⟨same, others⟩ := releaseUnused_idle (nothing .stemcell) stemcells onward
    exact ⟨same, List.forall_mem_append.2 ⟨looks, others⟩⟩

theorem cleanup_ok_iff (run : cleanup.run.Yields trace result) :
    result = .ok () ↔ ∀ event ∈ trace, ¬ Fails event := by
  refine Iff.trans ?_ (cleanup_stops.success_iff run)
  cases result with
  | ok value => exact iff_of_true rfl rfl
  | error error => exact iff_of_false nofun nofun

/-- What a cleanup comes to, whatever the provider and the store do. It releases what is unused, one
record after the other, and ends with the first that it cannot release, or when it cannot list those
of a kind; exactly what was released before is then gone from the document, and nothing else has
changed. After one that ended well, another one only looks at the document. -/
theorem cleanup_drops_unused
    (ids : ∀ kind, ((document.inventory kind).records.map (·.id)).Nodup) :
    (∀ {σ : Type} (conduct : Conduct signature σ) (state : σ),
      (∀ now request, ∃ answer next, conduct now ⟨request, answer⟩ next) →
        ∃ trace result after, cleanup.run.Yields trace result ∧
          conduct.Along state trace after) ∧
    ∀ trace result after, cleanup.run.Yields trace result →
      surroundings.Along (some document) trace after → ∃ gone left, after = some left ∧
        document.Dropped gone left ∧ CleanupCourse document trace result gone ∧
        (result = .ok () ↔ ∀ event ∈ trace, ¬ Fails event) ∧
        (result = .ok () → ∀ again verdict later, cleanup.run.Yields again verdict →
          surroundings.Along (some left) again later → later = some left ∧
            (∀ event ∈ again, event.request = .store .load) ∧
            (verdict = .ok () ∨ ∃ event ∈ again, Fails event)) := by
  constructor
  · intro σ conduct state answers
    let any : Event signature → Prop := fun _ => True
    have answered : ∀ now request, ∃ answer next,
        conduct now ⟨request, answer⟩ next ∧ any ⟨request, answer⟩ := by
      intro now request
      obtain ⟨answer, next, step⟩ := answers now request
      exact ⟨answer, next, step, trivial⟩
    obtain ⟨trace, result, after, run, along, _⟩ := Prog.exists_run answered cleanup.run state
    exact ⟨trace, result, after, run, along⟩
  · intro trace result after run along
    obtain ⟨gone, rfl, course⟩ := cleanup_course run along
    have dropped := Document.dropped_dropAll ids course.subset
    refine ⟨gone, _, rfl, dropped, course, cleanup_ok_iff run, ?_⟩
    rintro rfl again verdict later second onward
    rw [course.all_gone] at dropped onward ⊢
    obtain ⟨same, looks⟩ := cleanup_idle (fun _ => dropped.unused_eq_nil) second onward
    refine ⟨same, looks, ?_⟩
    by_cases fine : ∀ event ∈ again, ¬ Fails event
    · exact .inl ((cleanup_ok_iff second).2 fine)
    · push Not at fine
      exact .inr fine

/-- The first of two unused disks is released, and the second is refused. -/
theorem second_release_refused : ∃ document trace refusal after,
    (∀ kind, ((document.inventory kind).records.map (·.id)).Nodup) ∧
    cleanup.run.Yields trace (.error (.cloud refusal)) ∧
    surroundings.Along (some document) trace after ∧ ∃ gone left first second,
      after = some left ∧ document.Dropped gone left ∧
      CleanupCourse document trace (.error (.cloud refusal)) gone ∧
      document.unusedEntries = [first, second] ∧ first ∈ gone ∧ second ∉ gone := by
  let first : Record .disk := ⟨⟨"id-1"⟩, ⟨"disk-1"⟩, {}⟩
  let current : Record .disk := ⟨⟨"id-2"⟩, ⟨"disk-2"⟩, {}⟩
  let second : Record .disk := ⟨⟨"id-3"⟩, ⟨"disk-3"⟩, {}⟩
  let document : Document := { disks := ⟨some ⟨"id-2"⟩, [first, current, second]⟩ }
  let left : Document := { disks := ⟨some ⟨"id-2"⟩, [current, second]⟩ }
  let refusal : CloudError := .timeout "delete_disk" .zero
  let firstLabel := "Deleting unused disk 'disk-1'"
  let secondLabel := "Deleting unused disk 'disk-3'"
  let trace : List (Event signature) := [⟨.store .load, .ok document⟩,
    ⟨.stageBegun firstLabel, ()⟩, ⟨.now, .zero⟩, ⟨.delete .disk ⟨"disk-1"⟩, .ok .deleted⟩,
    ⟨.store .load, .ok document⟩, ⟨.store (.save left), .ok ()⟩, ⟨.now, .zero⟩,
    ⟨.stageEnded firstLabel .done .zero, ()⟩,
    ⟨.stageBegun secondLabel, ()⟩, ⟨.now, .zero⟩, ⟨.delete .disk ⟨"disk-3"⟩, .error refusal⟩,
    ⟨.now, .zero⟩, ⟨.stageEnded secondLabel (.failed (.cloud refusal)) .zero, ()⟩]
  have run : cleanup.run.Yields trace (.error (.cloud refusal)) := by
    repeat refine ⟨_, _, rfl, ?_⟩
    exact ⟨rfl, rfl⟩
  have along : surroundings.Along (some document) trace (some left) :=
    ⟨_, .loaded _, _, rfl, _, rfl, _, rfl, _, .loaded _, _, .saved _ _, _, rfl, _, rfl, _, rfl, _,
      rfl, _, rfl, _, rfl, _, rfl, rfl⟩
  have ids : ∀ kind, ((document.inventory kind).records.map (·.id)).Nodup := by
    intro kind
    cases kind <;> decide
  obtain ⟨gone, _, ⟨⟩, dropped, course, _⟩ := (cleanup_drops_unused ids).2 _ _ _ run along
  have firstGone : ⟨.disk, first⟩ ∈ gone := by
    by_contra kept
    have held := (dropped.records .disk first).2 ⟨.head _, kept⟩
    simp [left, Document.inventory, first, current, second] at held
  have secondKept : ⟨.disk, second⟩ ∉ gone :=
    ((dropped.records .disk second).1 (.tail _ (.head _))).2
  exact ⟨document, trace, refusal, some left, ids, run, along, gone, left, ⟨.disk, first⟩,
    ⟨.disk, second⟩, rfl, dropped, course, rfl, firstGone, secondKept⟩

end Cleanup

end DeploymentLifecycle.Lifecycle
