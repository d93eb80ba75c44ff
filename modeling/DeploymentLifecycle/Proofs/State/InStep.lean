import DeploymentLifecycle.Proofs.State.Verdict
import DeploymentLifecycle.Proofs.State.Working
import DeploymentLifecycle.State.MemoryStore

namespace DeploymentLifecycle

/-! The same operations over a document in a file and over one in memory. -/

namespace RepositoryStep

variable {step : RepositoryStep} {text : String} {document changed : Document}

theorem mem_withInventory {kind other : Kind} {inventory : Inventory other} {record : Record kind}
    (member : record ∈ ((document.withInventory inventory).inventory kind).records)
    (kept : ∀ record ∈ inventory.records, record ∈ (document.inventory other).records) :
    record ∈ (document.inventory kind).records := by
  by_cases same : kind = other
  · subst same
    rw [Document.inventory_withInventory] at member
    exact kept record member
  · rwa [Document.inventory_withInventory_of_ne same] at member

/-- A document that is saved has no records but those that were loaded and the one to insert. -/
theorem mem_of_replace {value : step.Answer} {kind : Kind} {record : Record kind}
    (replaced : step.verdict text document = .replace changed value)
    (member : record ∈ (changed.inventory kind).records) :
    record ∈ (document.inventory kind).records ∨
      ∃ cid details, step = .insert kind cid details ∧ record = ⟨⟨text⟩, cid, details⟩ := by
  -- Only an insertion has a record that was not there before.
  cases step with
  | currentVm => cases replaced
  | current => cases replaced
  | find => cases replaced
  | all => cases replaced
  | unused => cases replaced
  | setCurrentVm cid =>
      cases replaced
      exact .inl (by simpa using member)
  | clearCurrentVm =>
      simp only [verdict] at replaced
      split at replaced <;> cases replaced
      exact .inl (by simpa using member)
  | setCurrent | clearCurrent =>
      simp only [verdict] at replaced
      split at replaced <;> cases replaced
      exact .inl (mem_withInventory member fun _ held => held)
  | delete id =>
      simp only [verdict] at replaced
      split at replaced <;> cases replaced
      exact .inl (mem_withInventory member fun _ kept => (Inventory.mem_erase_records.1 kept).1)
  | @insert other cid details =>
      simp only [verdict] at replaced
      split at replaced <;> cases replaced
      by_cases same : kind = other
      · subst same
        rw [Document.inventory_withInventory] at member
        rcases List.mem_append.1 member with held | new
        · exact .inl held
        · exact .inr ⟨cid, details, rfl, List.mem_singleton.1 new⟩
      · rw [Document.inventory_withInventory_of_ne same] at member
        exact .inl member

/-- Cloud properties to insert are such that a reader could have made them. -/
def Storable : RepositoryStep → Prop
  | .insert .disk _ details =>
    (Json.object details.cloudProperties).Proper Document.propertiesBudget ∧
      Json.FieldsWhole details.cloudProperties
  | _ => True

end RepositoryStep

/-- Answers requests of a store by what the machine does for a store in a file. -/
def FileStore.onMachine (store : FileStore) (name : Nat → String) (request : Store.Request) :
    StateM Machine (Store.Answer request) :=
  (store.answer request).run (Machine.answer name)

/-- The file of the store holds the document that is in memory, the same identifiers are to come,
and the machine lets the store save. -/
structure InStep (store : FileStore) (name : Nat → String) (machine : Machine)
    (memory : MemoryStore) : Prop where
  works : store.Works name machine
  holds : store.held machine.current machine.files = .ok memory.document
  given : machine.given = memory.given
  whole : ∀ document, memory.document = some document → document.Whole

section

variable {store : FileStore} {name : Nat → String} {machine : Machine} {memory : MemoryStore}
  {α β : Type} {document : Document}

/-- A program asks the same of both stores, is answered alike, and leaves them in step. -/
def Alike (store : FileStore) (name : Nat → String) (machine : Machine) (memory : MemoryStore)
    (program : Prog Store.signature α) : Prop :=
  let inFile := program.record (store.onMachine name) machine
  let inMemory := program.record (MemoryStore.answer name) memory
  inFile.trace = inMemory.trace ∧ inFile.value = inMemory.value ∧
    InStep store name inFile.state inMemory.state

theorem InStep.settled (inStep : InStep store name machine memory)
    (stored : memory.document = some document) : document.Settled := by
  have holds := inStep.holds
  rw [stored] at holds
  exact FileStore.settled_of_held holds

theorem Alike.bind {program : Store.Program α} {next : α → Store.Program β} {value : α}
    (first : Alike store name machine memory program.run)
    (found : (program.run.record (MemoryStore.answer name) memory).value = .ok value)
    (rest : Alike store name (program.run.record (store.onMachine name) machine).state
      (program.run.record (MemoryStore.answer name) memory).state (next value).run) :
    Alike store name machine memory (program >>= next).run := by
  obtain ⟨trace, same, _⟩ := first
  obtain ⟨later, result, after⟩ := rest
  have inFile := Prog.record_exceptBind next (same.trans found)
  have inMemory := Prog.record_exceptBind next found
  simp only [Alike, inFile, inMemory]
  exact ⟨by rw [trace, later], result, after⟩

theorem alike_pure (inStep : InStep store name machine memory) (result : Except StateError α) :
    Alike store name machine memory (pure result) :=
  ⟨rfl, rfl, inStep⟩

theorem alike_return (inStep : InStep store name machine memory) (value : α) :
    Alike store name machine memory (pure value : Store.Program α).run :=
  alike_pure inStep (.ok value)

theorem alike_request {request : Store.Request}
    (answers : ((store.onMachine name request).run machine).1 =
      ((MemoryStore.answer name request).run memory).1)
    (after : InStep store name ((store.onMachine name request).run machine).2
      ((MemoryStore.answer name request).run memory).2) :
    Alike store name machine memory (Prog.request (S := Store.signature) request) := by
  refine ⟨?_, answers, after⟩
  exact congrArg (fun reply => [(⟨request, reply⟩ : Event Store.signature)]) answers

theorem alike_freshId (inStep : InStep store name machine memory) :
    Alike store name machine memory Store.freshId.run := by
  obtain ⟨works, holds, given, whole⟩ := inStep
  have answers : name machine.given = name memory.given := by rw [given]
  have asked : Alike store name machine memory (Prog.request (S := Store.signature) .freshId) :=
    alike_request answers ⟨works.congr rfl rfl, holds, congrArg (· + 1) given, whole⟩
  exact ⟨asked.1, congrArg Except.ok asked.2.1, asked.2.2⟩

theorem alike_save (inStep : InStep store name machine memory) (settled : document.Settled)
    (whole : document.Whole) : Alike store name machine memory (Store.save document).run := by
  obtain ⟨files, saved, works, read⟩ := inStep.works.save document
  change (store.onMachine name (.save document)).run machine = _ at saved
  apply alike_request
  · rw [saved]
    rfl
  · rw [saved]
    have holds := (FileStore.held_of_read read).trans
      (FileStore.document?_toText_of_settled store settled whole)
    refine ⟨works, holds, inStep.given, fun other same => ?_⟩
    cases same
    exact whole

theorem load_stored (name : Nat → String) (stored : memory.document = some document) :
    (MemoryStore.answer name .load).run memory = (.ok document, memory) := by
  obtain ⟨_, _⟩ := memory
  cases stored
  rfl

theorem load_blank (stored : memory.document = none)
    (made : document =
      { directorId := name memory.given, installationId := name (memory.given + 1) }) :
    (MemoryStore.answer name .load).run memory =
      (.ok document, { document := some document, given := memory.given + 2 }) := by
  obtain ⟨_, _⟩ := memory
  cases stored
  rw [made]
  rfl

theorem blank_settled {directorId installationId : String} :
    ({ directorId, installationId } : Document).Settled where
  vm := nofun
  current kind := by cases kind <;> nofun
  proper := by simp [Document.Proper]

/-- Both stores load the same document, and then both hold it. -/
theorem alike_load (inStep : InStep store name machine memory) :
    Alike store name machine memory Store.load.run ∧ ∃ document,
      (Store.load.run.record (MemoryStore.answer name) memory).value = .ok document ∧
        (Store.load.run.record (MemoryStore.answer name) memory).state.document = some document ∧
        ∀ held, memory.document = some held → document = held := by
  obtain ⟨works, holds, given, whole⟩ := inStep
  cases stored : memory.document with
  | some document =>
      rw [stored] at holds
      have inFile := @FileStore.load_found _ name _ _ holds
      change (store.onMachine name .load).run machine = _ at inFile
      have inMemory := load_stored name stored
      have alike : Alike store name machine memory Store.load.run := by
        apply alike_request <;> rw [inFile, inMemory]
        exact ⟨works, by rw [stored]; exact holds, given, whole⟩
      refine ⟨alike, document, congrArg Prod.fst inMemory, ?_, fun held same => ?_⟩
      · exact (congrArg (MemoryStore.document ∘ Prod.snd) inMemory).trans stored
      · exact Option.some.inj same
  | none =>
      rw [stored] at holds
      obtain ⟨files, inFile, again, read⟩ := FileStore.load_created works holds rfl
      change (store.onMachine name .load).run machine = _ at inFile
      rw [given] at inFile read
      have inMemory := @load_blank name memory _ stored rfl
      have blank : ({ directorId := name memory.given, installationId := name (memory.given + 1) } :
          Document).Whole := by simp [Document.Whole]
      have holds := (FileStore.held_of_read read).trans
        (FileStore.document?_toText_of_settled store blank_settled blank)
      have alike : Alike store name machine memory Store.load.run := by
        apply alike_request <;> rw [inFile, inMemory]
        refine ⟨?_, holds, rfl, fun other same => ?_⟩
        · rwa [given] at again
        · cases same
          exact blank
      refine ⟨alike, _, congrArg Prod.fst inMemory, ?_, fun held same => ?_⟩
      · exact congrArg (MemoryStore.document ∘ Prod.snd) inMemory
      · cases same

theorem storable_of_replace {step : RepositoryStep} {text : String} {changed : Document}
    {value : step.Answer} (storable : step.Storable) (proper : document.Proper)
    (whole : document.Whole) (replaced : step.verdict text document = .replace changed value) :
    changed.Proper ∧ changed.Whole := by
  have each : ∀ record ∈ changed.disks.records,
      (Json.object record.details.cloudProperties).Proper Document.propertiesBudget ∧
        Json.FieldsWhole record.details.cloudProperties := by
    intro record member
    obtain held | ⟨_, _, rfl, rfl⟩ :=
      @RepositoryStep.mem_of_replace _ _ _ _ _ .disk record replaced member
    · exact ⟨proper record held, whole record held⟩
    · exact storable
  exact ⟨fun record member => (each record member).1, fun record member => (each record member).2⟩

/-- Both stores open an operation with the same document, and then both hold it. -/
theorem alike_opening (inStep : InStep store name machine memory) (step : RepositoryStep) :
    Alike store name machine memory step.opening.run ∧ ∃ text document,
      (step.opening.run.record (MemoryStore.answer name) memory).value = .ok (text, document) ∧
        (step.opening.run.record (MemoryStore.answer name) memory).state.document =
          some document ∧
        ∀ held, memory.document = some held → document = held := by
  obtain ⟨text, identified, given, kept⟩ : ∃ text,
      Alike store name machine memory step.identifier.run ∧
        (step.identifier.run.record (MemoryStore.answer name) memory).value = .ok text ∧
        (step.identifier.run.record (MemoryStore.answer name) memory).state.document =
          memory.document := by
    cases step with
    | insert => exact ⟨_, alike_freshId inStep, rfl, rfl⟩
    | _ => exact ⟨"", alike_return inStep "", rfl, rfl⟩
  obtain ⟨loaded, document, found, stored, same⟩ := alike_load identified.2.2
  have returned := alike_return loaded.2.2 (text, document)
  refine ⟨identified.bind given (loaded.bind found returned), text, document, ?_⟩
  rw [RepositoryStep.opening, Prog.record_exceptBind _ given]
  dsimp only
  rw [Prog.record_exceptBind _ found]
  rw [kept] at same
  exact ⟨rfl, stored, same⟩

/-- What becomes of the document in memory, if an operation saves another one. -/
theorem record_replace {step : RepositoryStep} {text : String} {changed : Document}
    {value : step.Answer}
    (opened : (step.opening.run.record (MemoryStore.answer name) memory).value =
      .ok (text, document))
    (outcome : step.verdict text document = .replace changed value) :
    (step.program.run.record (MemoryStore.answer name) memory).value = .ok value ∧
      (step.program.run.record (MemoryStore.answer name) memory).state.document = some changed := by
  rw [RepositoryStep.program_eq, Prog.record_exceptBind _ opened]
  dsimp only
  rw [outcome]
  exact ⟨rfl, rfl⟩

/-- An operation is answered alike, unless it is to store an empty pointer. -/
theorem alike_step (inStep : InStep store name machine memory) (step : RepositoryStep)
    (storable : step.Storable)
    (named : ∀ document, (step.program.run.record (MemoryStore.answer name) memory).state.document =
      some document → document.Named) :
    Alike store name machine memory step.program.run := by
  obtain ⟨opening, text, document, opened, stored, _⟩ := alike_opening inStep step
  rw [RepositoryStep.program_eq]
  refine opening.bind opened ?_
  cases outcome : step.verdict text document with
  | answer result => exact alike_pure opening.2.2 result
  | replace changed value =>
      have kept := storable_of_replace storable (opening.2.2.settled stored).proper
        (opening.2.2.whole document stored) outcome
      have settled : changed.Settled := ⟨named changed (record_replace opened outcome).2, kept.1⟩
      have saved := alike_save opening.2.2 settled kept.2
      exact saved.bind rfl (alike_return saved.2.2 value)

end

end DeploymentLifecycle
