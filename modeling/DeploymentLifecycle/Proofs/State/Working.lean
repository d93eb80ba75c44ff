import DeploymentLifecycle.Machine
import DeploymentLifecycle.Proofs.FileTree.Directories
import DeploymentLifecycle.Proofs.Perform
import DeploymentLifecycle.Proofs.State.FileStore

namespace DeploymentLifecycle.FileStore

/-! A store on a machine whose files can be written. -/

open Host (ask)

variable {store : FileStore} {name : Nat → String} {machine after : Machine}
  {document : Document} {files : FileTree}

/-- The machine lets the store save any document. -/
def Works (store : FileStore) (name : Nat → String) (machine : Machine) : Prop :=
  ∀ document : Document,
    ((store.save document).perform (Machine.answer name) machine).1 = .ok ()

theorem perform_write {path : Path} {text : String} :
    (ask (.write path text)).perform (Machine.answer name) machine =
      machine.changeFiles (machine.files.write machine.current path (Text.encode text)) := rfl

theorem perform_rename {source target : Path} :
    (ask (.rename source target)).perform (Machine.answer name) machine =
      machine.changeFiles (machine.files.rename machine.current source target) := rfl

theorem changeFiles_eq_ok {outcome : Except IoError FileTree} :
    machine.changeFiles outcome = (.ok (), after) ↔
      ∃ files, outcome = .ok files ∧ after = { machine with files } := by
  cases outcome <;> simp [Machine.changeFiles, eq_comm]

theorem perform_makeDirectories {path : Path} :
    (ask (.makeDirectories path)).perform (Machine.answer name) machine = (.ok (), after) ↔
      ∃ files, machine.files.makeDirectories machine.current path = (.ok (), files) ∧
        after = { machine with files } := by
  change ((machine.files.makeDirectories machine.current path).1,
    { machine with files := (machine.files.makeDirectories machine.current path).2 }) = _ ↔ _
  rcases machine.files.makeDirectories machine.current path with ⟨outcome, files⟩
  simp only [Prod.mk.injEq]
  grind

theorem writing_perform {step : Host.Program (Except IoError Unit)} :
    (store.writing step).run.perform (Machine.answer name) machine = (.ok (), after) ↔
      step.perform (Machine.answer name) machine = (.ok (), after) := by
  rcases first : step.perform (Machine.answer name) machine with ⟨cause | value, middle⟩
  · rw [writing, ExceptT.run_mk, Prog.perform_bind first, first]
    constructor <;> nofun
  · rw [writing, ExceptT.run_mk, Prog.perform_bind first, first]
    constructor <;> intro same <;> cases same <;> rfl

/-- Making the directories that the file lies in turns the first tree into the second one. -/
def Prepares (store : FileStore) (current : FileTree.Place) (files made : FileTree) : Prop :=
  match store.path.parent? with
  | some parent =>
    if parent.text.isEmpty then made = files
    else files.makeDirectories current parent = (.ok (), made)
  | none => made = files

theorem prepare_perform :
    store.prepare.run.perform (Machine.answer name) machine = (.ok (), after) ↔
      ∃ files, store.Prepares machine.current machine.files files ∧
        after = { machine with files } := by
  have idle : (pure () : ExceptT StateError (Prog Host.signature) Unit).run.perform
      (Machine.answer name) machine = (.ok (), after) ↔
        ∃ files, files = machine.files ∧ after = { machine with files } := by
    constructor
    · intro same
      cases same
      exact ⟨_, rfl, rfl⟩
    · rintro ⟨_, rfl, rfl⟩
      rfl
  unfold prepare Prepares
  cases store.path.parent? with
  | none => exact idle
  | some parent =>
      dsimp only
      cases parent.text.isEmpty with
      | true => exact idle
      | false => exact writing_perform.trans perform_makeDirectories

theorem prepares_again {current : FileTree.Place} {made other : FileTree}
    (prepares : store.Prepares current files made) (same : other.SameDirectories made) :
    store.Prepares current other other := by
  unfold Prepares at prepares ⊢
  split
  · split
    · rfl
    · simp_all only [Bool.false_eq_true, if_false]
      exact FileTree.makeDirectories_again prepares same
  · rfl

theorem replace_perform {text : String} :
    (store.replace text).run.perform (Machine.answer name) machine = (.ok (), after) ↔
      ∃ files, machine.files.replace machine.current store.temporary store.path
        (Text.encode text) = .ok files ∧ after = { machine with files } := by
  constructor
  · intro done
    obtain ⟨_, middle, wrote, renamed⟩ := Prog.exists_of_perform_exceptBind done
    rw [writing_perform, perform_write, changeFiles_eq_ok] at wrote
    rw [writing_perform, perform_rename, changeFiles_eq_ok] at renamed
    obtain ⟨written, wrote, rfl⟩ := wrote
    obtain ⟨files, renamed, rfl⟩ := renamed
    exact ⟨files, bind_eq_ok.2 ⟨written, wrote, renamed⟩, rfl⟩
  · rintro ⟨files, replaced, rfl⟩
    obtain ⟨written, wrote, renamed⟩ := bind_eq_ok.1 replaced
    have first : (store.writing (ask (.write store.temporary text))).run.perform
        (Machine.answer name) machine = (.ok (), { machine with files := written }) := by
      rw [writing_perform, perform_write, wrote]
      rfl
    rw [FileStore.replace, Prog.perform_exceptBind first, writing_perform, perform_rename, renamed]
    rfl

/-- As long as the directories are these, the file of the store can be replaced. -/
structure Ready (store : FileStore) (current : FileTree.Place) (base : FileTree) : Prop where
  prepares : ∀ files : FileTree, files.SameDirectories base → store.Prepares current files files
  replace : ∀ (files : FileTree) (content : List UInt8), files.SameDirectories base →
    ∃ after, files.replace current store.temporary store.path content = .ok after ∧
      after.SameDirectories base ∧ after.read current store.path = .ok content

theorem save_perform {made : FileTree}
    (prepares : store.Prepares machine.current machine.files made)
    (replaced : made.replace machine.current store.temporary store.path
      (Text.encode document.toText) = .ok files) :
    (store.save document).perform (Machine.answer name) machine =
      (.ok (), { machine with files }) := by
  rw [save_eq, Prog.perform_exceptBind (prepare_perform.2 ⟨made, prepares, rfl⟩)]
  exact replace_perform.2 ⟨files, replaced, rfl⟩

/-- Whether a machine lets the store save is a question of its directories, not of the document. -/
theorem ready_of_save
    (saved : ((store.save document).perform (Machine.answer name) machine).1 = .ok ()) :
    ∃ base, store.Prepares machine.current machine.files base ∧
      store.Ready machine.current base := by
  rcases run : (store.save document).perform (Machine.answer name) machine with ⟨outcome, after⟩
  obtain rfl : outcome = .ok () := by rw [← saved, run]
  rw [save_eq] at run
  obtain ⟨_, _, prepared, done⟩ := Prog.exists_of_perform_exceptBind run
  obtain ⟨base, prepares, rfl⟩ := prepare_perform.1 prepared
  obtain ⟨_, replaced, _⟩ := replace_perform.1 done
  -- A run that has written these two files shows that both can be put there, whatever is in them.
  obtain ⟨_, _, _, _, beside, admits⟩ := FileTree.admits_of_replace replaced
  refine ⟨base, prepares, fun _ same => prepares_again prepares same, ?_⟩
  intro files content same
  have beside := beside.congr same
  have admits := admits.congr same
  have kept := FileTree.sameDirectories_replaced content beside.free admits.free
  exact ⟨_, beside.replace admits, kept.trans same, FileTree.read_replaced beside admits⟩

theorem works_of_ready {base : FileTree}
    (prepares : store.Prepares machine.current machine.files base)
    (ready : store.Ready machine.current base) : store.Works name machine := by
  intro document
  obtain ⟨_, replaced, _⟩ := ready.replace base (Text.encode document.toText) fun _ => Iff.rfl
  rw [save_perform prepares replaced]

/-- A machine that lets the store save one document lets it save any. -/
theorem works_of_save
    (saved : ((store.save document).perform (Machine.answer name) machine).1 = .ok ()) :
    store.Works name machine := by
  obtain ⟨base, prepares, ready⟩ := ready_of_save saved
  exact works_of_ready prepares ready

/-- On a machine that lets the store save, a saved document is in the file, and the machine lets the
store save again. -/
theorem Works.save (works : store.Works name machine) (document : Document) :
    ∃ files : FileTree, (store.save document).perform (Machine.answer name) machine =
        (.ok (), { machine with files }) ∧ store.Works name { machine with files } ∧
      files.read machine.current store.path = .ok (Text.encode document.toText) := by
  obtain ⟨base, prepares, ready⟩ := ready_of_save (works document)
  obtain ⟨files, replaced, same, read⟩ :=
    ready.replace base (Text.encode document.toText) fun _ => Iff.rfl
  have again : store.Works name { machine with files } := by
    refine works_of_ready (ready.prepares files same) ⟨fun later kept => ?_, ?_⟩
    · exact ready.prepares later (kept.trans same)
    · intro later content kept
      obtain ⟨after, replaced, still, read⟩ := ready.replace later content (kept.trans same)
      exact ⟨after, replaced, still.trans same.symm, read⟩
  exact ⟨files, save_perform prepares replaced, again, read⟩

theorem Works.congr {other : Machine} (works : store.Works name machine)
    (files : other.files = machine.files) (current : other.current = machine.current) :
    store.Works name other := by
  obtain ⟨base, prepares, ready⟩ := ready_of_save (works {})
  rw [← files, ← current] at prepares
  rw [← current] at ready
  exact works_of_ready prepares ready

/-- What the store finds in its file. -/
def held (store : FileStore) (current : FileTree.Place) (files : FileTree) :
    Except StateError (Option Document) :=
  match files.read current store.path with
  | .ok content =>
    match Text.decode? content with
    | some text => store.document? text
    | none => .error (.read store.path.text .notText)
  | .error cause =>
    if cause = .notFound then .ok none else .error (.read store.path.text cause)

theorem read_perform : store.read.perform (Machine.answer name) machine =
    (store.held machine.current machine.files, machine) := by
  have asked : (ask (.read store.path)).perform (Machine.answer name) machine =
      (machine.files.read machine.current store.path, machine) := rfl
  rw [FileStore.read, Prog.perform_bind asked, held]
  cases machine.files.read machine.current store.path with
  | ok content =>
      dsimp only
      cases Text.decode? content <;> rfl
  | error cause =>
      dsimp only
      split <;> rfl

theorem held_of_read {current : FileTree.Place}
    (read : files.read current store.path = .ok (Text.encode document.toText)) :
    store.held current files = store.document? document.toText := by
  simp [held, read, Text.decode?_encode]

theorem settled_of_held {current : FileTree.Place}
    (holds : store.held current files = .ok (some document)) : document.Settled := by
  rw [held] at holds
  split at holds
  · split at holds
    · exact settled_of_document? holds
    · cases holds
  · split at holds <;> cases holds

theorem load_found
    (holds : store.held machine.current machine.files = .ok (some document)) :
    store.load.perform (Machine.answer name) machine = (.ok document, machine) := by
  rw [load, Prog.perform_bind read_perform, holds]
  rfl

/-- Where no document is stored, loading makes one and saves it. -/
theorem load_created (works : store.Works name machine)
    (holds : store.held machine.current machine.files = .ok none)
    (made : document =
      { directorId := name machine.given, installationId := name (machine.given + 1) }) :
    ∃ files : FileTree, store.load.perform (Machine.answer name) machine =
        (.ok document, { machine with given := machine.given + 2, files }) ∧
      store.Works name { machine with given := machine.given + 2, files } ∧
      files.read machine.current store.path = .ok (Text.encode document.toText) := by
  have named : fresh.perform (Machine.answer name) machine =
      (document, { machine with given := machine.given + 2 }) := by
    rw [made]
    rfl
  have ready : store.Works name { machine with given := machine.given + 2 } := works.congr rfl rfl
  obtain ⟨files, saved, again, read⟩ := ready.save document
  refine ⟨files, ?_, again, read⟩
  rw [load, Prog.perform_bind read_perform, holds]
  dsimp only
  rw [Prog.perform_bind named, Prog.perform_bind saved]
  rfl

end DeploymentLifecycle.FileStore
