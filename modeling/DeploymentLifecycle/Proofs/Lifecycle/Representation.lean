import DeploymentLifecycle.Proofs.Lifecycle.Operation
import DeploymentLifecycle.Proofs.Lifecycle.Provider
import DeploymentLifecycle.Proofs.State.Sound

namespace DeploymentLifecycle

/-! What is stored stays sound at every moment, whatever is done to it and however that ends. -/

theorem Store.exists_still (stored : Option Document) (request : Store.Request) :
    ∃ answer, Serves stored ⟨request, answer⟩ stored := by
  have refusal : StateError := .parse "" ""
  cases request with
  | load => exact ⟨.error refusal, .notLoaded stored refusal⟩
  | read => exact ⟨.ok stored, .read stored⟩
  | save document => exact ⟨.error refusal, .notSaved stored document refusal⟩
  | freshId =>
      obtain ⟨text, fresh⟩ := exists_fresh (content stored)
      exact ⟨text, .named stored text fresh⟩

namespace Lifecycle

open Store (Finds content)

theorem exists_still (stored : Option Document) (request : Request) :
    ∃ answer, surroundings stored ⟨request, answer⟩ stored := by
  cases request with
  | store request => exact Store.exists_still stored request
  | hasVm | listDisk => exact ⟨.ok default, rfl⟩
  | delete => exact ⟨.ok .deleted, rfl⟩
  | ping => exact ⟨.pending, rfl⟩
  | getState => exact ⟨.ok { jobState := "running" }, rfl⟩
  | now => exact ⟨.zero, rfl⟩
  | runScript | drain | stop | start | unmountDisk => exact ⟨.ok (), rfl⟩
  | sleep | stageBegun | stageEnded => exact ⟨(), rfl⟩

section Preservation

variable {holds : Option Document → Prop} {moment : Moment} {kind : Kind}

theorem unconcerned_of_preserved (preserved : Preserved holds) :
    Unconcerned fun moment => holds moment.stored where
  load before finds := preserved.load before finds
  agree before := before
  erase before := preserved.erase before

theorem releaseCurrent_preserves (preserved : Preserved holds) {record : Record kind}
    (before : holds moment.stored) :
    (releaseCurrent record).run.Keeps freely moment fun _ after => holds after.stored :=
  (unconcerned_of_preserved preserved).releaseCurrent (fun _ _ _ => trivial) before

theorem releaseUnused_preserves (preserved : Preserved holds) (before : holds moment.stored) :
    (releaseUnused kind).run.Keeps freely moment fun _ after => holds after.stored :=
  (unconcerned_of_preserved preserved).releaseUnused (fun _ _ _ => trivial) before

theorem Instance.delete_preserves (preserved : Preserved holds) {target : Instance}
    {settings : Settings} {skipDrain : Bool} (before : holds moment.stored) :
    (target.delete settings skipDrain).run.Keeps freely moment
      fun _ after => holds after.stored := by
  apply Instance.delete_keeps trivial (fun _ => before) fun _ => before
  exact fun document finds => preserved.setVm (preserved.load before finds)

/-- Whatever all changes to the stored document preserve, every operation preserves, also one that
fails half-way. -/
theorem Operation.preserves (preserved : Preserved holds) (operation : Operation)
    (settings : Settings) (before : holds moment.stored) :
    (operation.program settings).run.Keeps freely moment fun _ after => holds after.stored := by
  cases operation with
  | lookUp | status | stop | start =>
      exact keeps_idle (by trivial) before fun _ => preserved.load before
  | delete deployment skipDrain =>
      let reached : Moment → Prop := fun now => holds now.stored
      apply Prog.keeps_bind.2
      apply Deployment.delete_keeps reached reached
      · exact fun _ => before
      · exact fun target _ => (Instance.delete_preserves preserved before).byResult
          (fun _ _ held => held) fun _ _ held => held
      · exact fun _ held _ => held
      · exact fun now record held _ => (releaseCurrent_preserves preserved held).byResult
          (fun _ _ held => held) fun _ _ held => held
      · exact fun _ held _ => held
      · exact fun now record held _ => (releaseCurrent_preserves preserved held).byResult
          (fun _ _ held => held) fun _ _ held => held
  | deleteInstance target skipDrain => exact Instance.delete_preserves preserved before
  | releaseCurrent record => exact releaseCurrent_preserves preserved before
  | releaseUnused kind => exact releaseUnused_preserves preserved before
  | cleanup =>
      apply Prog.Keeps.exceptBind (releaseUnused_preserves preserved before)
      · exact fun _ _ held => releaseUnused_preserves preserved held
      · exact fun _ _ held => held

theorem History.preserves {initial stored : Option Document} (preserved : Preserved holds)
    (history : History initial stored) (start : holds initial) : holds stored := by
  induction history with
  | start => exact start
  | operation _ settings operation run along ih =>
      exact ends_of_keeps (operation.preserves preserved settings ih) run along
  | step _ step run along ih => exact (step.keeps preserved ih).ends run along

end Preservation

/-- What is stored at some moment of a history: between what is done, and also in the middle of an
operation or a step. -/
inductive PassesThrough (initial : Option Document) : Option Document → Prop
  | between {stored : Option Document} (history : History initial stored) :
      PassesThrough initial stored
  | inOperation {before now : Option Document} (earlier : History initial before)
      (settings : Settings) (operation : Operation) {early late : List (Event signature)}
      {result : Except LifecycleError Unit}
      (run : (operation.program settings).run.Yields (early ++ late) result)
      (along : surroundings.Along before early now) : PassesThrough initial now
  | inStep {before now : Option Document} (earlier : History initial before)
      (step : RepositoryStep) {early late : List (Event Store.signature)}
      {result : Except StateError step.Answer}
      (run : step.program.run.Yields (early ++ late) result)
      (along : Store.Serves.Along before early now) : PassesThrough initial now

/-- Whatever is interrupted at a moment might as well have failed there, with nothing stored any
more. -/
theorem PassesThrough.history {initial now : Option Document}
    (passes : PassesThrough initial now) : History initial now := by
  cases passes with
  | between history => exact history
  | inOperation earlier settings operation run along =>
      obtain ⟨rest, outcome, run, along⟩ := Prog.exists_completion (exists_still now) run along
      exact earlier.operation settings operation run along
  | inStep earlier step run along =>
      obtain ⟨rest, outcome, run, along⟩ :=
        Prog.exists_completion (Store.exists_still now) run along
      exact earlier.step step run along

/-- At every moment, what is stored is sound if it was in the beginning, and as soon as a document
is stored, the deployment keeps its identity. -/
theorem stored_document_stays_sound {initial before now : Option Document}
    (sound : ∀ document, initial = some document → document.Sound)
    (earlier : PassesThrough initial before) (later : PassesThrough before now) :
    (∀ document, now = some document → document.Sound) ∧
    ∀ first, before = some first →
      ∃ document, now = some document ∧ document.SameIdentity first := by
  have begun : (content initial).Sound := by
    cases initial with
    | none => exact Document.sound_blank
    | some document => exact sound document rfl
  have unnamed : Document.Intact none initial := ⟨begun, nofun⟩
  have middle := earlier.history.preserves Document.Intact.preserved unnamed
  have named : Document.Intact before before :=
    ⟨middle.sound, fun first stored => ⟨first, stored, ⟨rfl, rfl⟩⟩⟩
  have intact := later.history.preserves Document.Intact.preserved named
  refine ⟨fun document stored => ?_, intact.identity⟩
  subst stored
  exact intact.sound

/-- In an empty store a disk is recorded and made current, and its release is cut off right after
the record was dropped. -/
theorem interrupted_release_stays_sound : ∃ first document,
    PassesThrough none (some first) ∧ PassesThrough (some first) (some document) ∧
      document.Sound ∧ document.SameIdentity first := by
  let first : Document := { directorId := "director", installationId := "installation" }
  let record : Record .disk := ⟨⟨"id-1"⟩, ⟨"disk-1"⟩, {}⟩
  let recorded : Document := { first with disks := ⟨none, [record]⟩ }
  let pointed : Document := { first with disks := ⟨some ⟨"id-1"⟩, [record]⟩ }
  have looked : History none (some first) := by
    let trace : List (Event Store.signature) := [⟨.load, .ok first⟩]
    have run : (RepositoryStep.current .disk).program.run.Yields trace (.ok none) :=
      ⟨_, _, rfl, rfl, rfl⟩
    exact .step .start (.current .disk) run ⟨_, .created "director" "installation", rfl⟩
  have inserted : History (some first) (some recorded) := by
    let trace : List (Event Store.signature) :=
      [⟨.freshId, "id-1"⟩, ⟨.load, .ok first⟩, ⟨.save recorded, .ok ()⟩]
    have run : (RepositoryStep.insert .disk ⟨"disk-1"⟩ {}).program.run.Yields trace (.ok record) :=
      ⟨_, _, rfl, _, _, rfl, _, _, rfl, rfl, rfl⟩
    have fresh : ∀ kind, ((content (some first)).inventory kind).hasId ⟨"id-1"⟩ = false :=
      fun kind => by cases kind <;> rfl
    have along : Store.Serves.Along (some first) trace (some recorded) :=
      ⟨_, .named _ _ fresh, _, .loaded _, _, .saved _ _, rfl⟩
    exact .step .start (.insert .disk ⟨"disk-1"⟩ {}) run along
  have made : History (some first) (some pointed) := by
    let trace : List (Event Store.signature) := [⟨.load, .ok recorded⟩, ⟨.save pointed, .ok ()⟩]
    have run : (RepositoryStep.setCurrent record.id).program.run.Yields trace (.ok ()) :=
      ⟨_, _, rfl, _, _, rfl, rfl, rfl⟩
    exact .step inserted (.setCurrent record.id) run ⟨_, .loaded _, _, .saved _ _, rfl⟩
  let label := "Deleting disk 'disk-1'"
  let early : List (Event signature) := [⟨.store .load, .ok pointed⟩, ⟨.stageBegun label, ()⟩,
    ⟨.now, .zero⟩, ⟨.delete .disk ⟨"disk-1"⟩, .ok .deleted⟩, ⟨.store .load, .ok pointed⟩,
    ⟨.store (.save first), .ok ()⟩]
  have run : ((Operation.releaseCurrent record).program {}).run.Yields
      (early ++ [⟨.now, .zero⟩, ⟨.stageEnded label .done .zero, ()⟩]) (.ok ()) :=
    ⟨_, _, rfl, _, _, rfl, _, _, rfl, _, _, rfl, _, _, rfl, _, _, rfl, _, _, rfl, _, _, rfl,
      rfl, rfl⟩
  have along : surroundings.Along (some pointed) early (some first) :=
    ⟨_, .loaded _, _, rfl, _, rfl, _, rfl, _, .loaded _, _, .saved _ _, rfl⟩
  have later : PassesThrough (some first) (some first) := .inOperation made {} _ run along
  have empty : ∀ document : Document, none = some document → document.Sound :=
    fun _ absent => by cases absent
  obtain ⟨sound, identity⟩ := stored_document_stays_sound empty (.between looked) later
  obtain ⟨document, stored, same⟩ := identity first rfl
  cases stored
  exact ⟨first, first, .between looked, later, sound first rfl, same⟩

end Lifecycle

end DeploymentLifecycle
