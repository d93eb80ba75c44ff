import DeploymentLifecycle.Proofs.State.InStep

namespace DeploymentLifecycle

/-! A document in a file and one in memory stand for each other, whatever operations are
performed. -/

variable {σ : Type} {store : FileStore} {name : Nat → String} {machine : Machine}
  {memory : MemoryStore} {document : Document}

/-- An operation with what it asked of the store and what it answered. -/
structure Performed where
  step : RepositoryStep
  requests : List (Event Store.signature)
  result : Except StateError step.Answer

/-- Performs operations one after another. -/
def performAll (answer : (request : Store.Request) → StateM σ (Store.Answer request)) :
    List RepositoryStep → σ → List Performed × σ
  | [], state => ([], state)
  | step :: rest, state =>
    let first := step.program.run.record answer state
    let later := performAll answer rest first.state
    (⟨step, first.trace, first.value⟩ :: later.1, later.2)

/-- No pointer in memory is an empty text. -/
def MemoryStore.Named (memory : MemoryStore) : Prop :=
  ∀ document, memory.document = some document → document.Named

theorem performAll_alike {steps : List RepositoryStep}
    (inStep : InStep store name machine memory) (storable : ∀ step ∈ steps, step.Storable)
    (named : ∀ early, early <+: steps →
      (performAll (MemoryStore.answer name) early memory).2.Named) :
    (performAll (store.onMachine name) steps machine).1 =
        (performAll (MemoryStore.answer name) steps memory).1 ∧
      InStep store name (performAll (store.onMachine name) steps machine).2
        (performAll (MemoryStore.answer name) steps memory).2 := by
  induction steps generalizing machine memory with
  | nil => exact ⟨rfl, inStep⟩
  | cons step rest ih =>
      have first : [step] <+: step :: rest := ⟨rest, rfl⟩
      obtain ⟨trace, value, after⟩ := alike_step inStep step
        (storable step List.mem_cons_self) (named [step] first)
      obtain ⟨later, final⟩ := ih after (fun other member => storable other (.tail _ member))
        fun early isPrefix => named (step :: early) (List.prefix_cons_inj step |>.2 isPrefix)
      refine ⟨?_, final⟩
      simp only [performAll, trace, value, later]

/-- What was made current is what is found to be current afterwards. -/
structure FindsAgain (answer : (request : Store.Request) → StateM σ (Store.Answer request))
    (state : σ) (stored : Option Document) : Prop where
  vm : ∀ cid : Cid .vm, cid.text ≠ "" →
    ((do CurrentVm.set cid; CurrentVm.find? : Store.Program _).run.perform answer state).1 =
      .ok (some cid)
  record : ∀ document, stored = some document → ∀ (kind : Kind) (id : RecordId kind),
    id.text ≠ "" → (document.inventory kind).hasId id →
      ∃ record, record.id = id ∧ ((do Records.setCurrent id; Records.current? kind :
        Store.Program _).run.perform answer state).1 = .ok (some record)

theorem record_answer {step : RepositoryStep} {text : String}
    {result : Except StateError step.Answer}
    (opened : (step.opening.run.record (MemoryStore.answer name) memory).value =
      .ok (text, document))
    (outcome : step.verdict text document = .answer result) :
    (step.program.run.record (MemoryStore.answer name) memory).value = result ∧
      (step.program.run.record (MemoryStore.answer name) memory).state =
        (step.opening.run.record (MemoryStore.answer name) memory).state := by
  rw [RepositoryStep.program_eq, Prog.record_exceptBind _ opened]
  dsimp only
  rw [outcome]
  exact ⟨rfl, rfl⟩

/-- Where an operation saved a document, one that only looks sees that document. -/
theorem perform_update {update look : RepositoryStep} {text : String} {changed : Document}
    {value : update.Answer} {answer : look.Answer} (inStep : InStep store name machine memory)
    (storable : update.Storable ∧ look.Storable)
    (opened : (update.opening.run.record (MemoryStore.answer name) memory).value =
      .ok (text, document))
    (updates : update.verdict text document = .replace changed value) (named : changed.Named)
    (looks : ∀ text, look.verdict text changed = .answer (.ok answer)) :
    ((update.program >>= fun _ => look.program).run.perform (store.onMachine name) machine).1 =
        .ok answer ∧
      ((update.program >>= fun _ => look.program).run.perform (MemoryStore.answer name) memory).1 =
        .ok answer := by
  have saved := record_replace opened updates
  have updated := alike_step inStep update storable.1 fun other same => by
    cases saved.2.symm.trans same
    exact named
  obtain ⟨_, text, found, reopened, held, same⟩ := alike_opening updated.2.2 look
  obtain rfl := same changed saved.2
  have answered := record_answer reopened (looks text)
  have looked := alike_step updated.2.2 look storable.2 fun other same => by
    rw [answered.2] at same
    cases held.symm.trans same
    exact named
  have both : Alike store name machine memory (update.program >>= fun _ => look.program).run :=
    updated.bind saved.1 looked
  have inMemory : ((update.program >>= fun _ => look.program).run.record
      (MemoryStore.answer name) memory).value = .ok answer := by
    rw [Prog.record_exceptBind _ saved.1]
    exact answered.1
  exact ⟨(congrArg Prod.fst Prog.record_perform).trans (both.2.1.trans inMemory),
    (congrArg Prod.fst Prog.record_perform).trans inMemory⟩

theorem finds_current_vm (inStep : InStep store name machine memory) {cid : Cid .vm}
    (visible : cid.text ≠ "") :
    ((do CurrentVm.set cid; CurrentVm.find? : Store.Program _).run.perform
        (store.onMachine name) machine).1 = .ok (some cid) ∧
      ((do CurrentVm.set cid; CurrentVm.find? : Store.Program _).run.perform
        (MemoryStore.answer name) memory).1 = .ok (some cid) := by
  obtain ⟨opening, text, document, opened, stored, _⟩ := alike_opening inStep (.setCurrentVm cid)
  have named := (opening.2.2.settled stored).toNamed
  have pointed : ({ document with currentVm := some cid } : Document).Named := by
    refine ⟨fun empty => visible (by cases empty; rfl), fun kind => ?_⟩
    simpa using named.current kind
  exact @perform_update _ _ _ _ _ (.setCurrentVm cid) .currentVm _ _ _ _ inStep
    ⟨trivial, trivial⟩ opened rfl pointed fun _ => rfl

theorem finds_current_record (inStep : InStep store name machine memory)
    (present : memory.document = some document) {kind : Kind} {id : RecordId kind}
    (visible : id.text ≠ "") (has : (document.inventory kind).hasId id) :
    ∃ record, record.id = id ∧
      ((do Records.setCurrent id; Records.current? kind : Store.Program _).run.perform
        (store.onMachine name) machine).1 = .ok (some record) ∧
      ((do Records.setCurrent id; Records.current? kind : Store.Program _).run.perform
        (MemoryStore.answer name) memory).1 = .ok (some record) := by
  obtain ⟨opening, text, found, opened, stored, same⟩ := alike_opening inStep (.setCurrent id)
  obtain rfl := same document present
  have named := (opening.2.2.settled stored).toNamed
  have pointed : (found.withInventory { found.inventory kind with current := some id }).Named := by
    refine ⟨by simpa using named.vm, fun other => ?_⟩
    by_cases same : other = kind
    · subst same
      rw [Document.inventory_withInventory]
      exact fun empty => visible (by cases empty; rfl)
    · rw [Document.inventory_withInventory_of_ne same]
      exact named.current other
  obtain ⟨record, current⟩ : ∃ record,
      (found.inventory kind).records.find? (fun record => record.id == id) = some record := by
    rw [← Option.isSome_iff_exists, List.find?_isSome]
    simpa [Inventory.hasId] using has
  refine ⟨record, by simpa using List.find?_some current, ?_⟩
  refine @perform_update _ _ _ _ _ (.setCurrent id) (.current kind) _ _ _ _ inStep
    ⟨trivial, trivial⟩ opened (if_pos has) pointed fun _ => ?_
  simp only [RepositoryStep.verdict, Document.inventory_withInventory, Inventory.currentRecord?]
  exact congrArg (Verdict.answer ∘ Except.ok) current

theorem perform_set {answer : (request : Store.Request) → StateM σ (Store.Answer request)}
    {state middle after : σ} {cid : Cid .vm}
    (loaded : Store.load.run.perform answer state = (.ok document, middle))
    (saved : (Store.save { document with currentVm := some cid }).run.perform answer middle =
      (.ok (), after)) :
    (CurrentVm.set cid).run.perform answer state = (.ok (), after) := by
  rw [CurrentVm.set, Prog.perform_exceptBind loaded]
  exact saved

theorem perform_load : Store.load.run.perform (store.onMachine name) machine =
    store.load.perform (Machine.answer name) machine := rfl

theorem perform_save : (Store.save document).run.perform (store.onMachine name) machine =
    (store.save document).perform (Machine.answer name) machine := rfl

/-- A file in which an empty pointer was put is read as if there were none. -/
theorem emptied_in_file (works : store.Works name machine)
    (holds : store.held machine.current machine.files = .ok none) :
    ((do CurrentVm.set ⟨""⟩; CurrentVm.find? : Store.Program _).run.perform
      (store.onMachine name) machine).1 = .ok none := by
  obtain ⟨files, loaded, again, _⟩ := FileStore.load_created works holds rfl
  obtain ⟨later, saved, _, read⟩ := again.save
    { directorId := name machine.given, installationId := name (machine.given + 1),
      currentVm := some ⟨""⟩ }
  rw [← perform_load] at loaded
  rw [← perform_save] at saved
  have holds := (FileStore.held_of_read read).trans (FileStore.document?_toText store
    (by simp [Document.Proper]) (by simp [Document.Whole]))
  have found := @FileStore.load_found store name
    { machine with given := machine.given + 2, files := later } _ holds
  rw [← perform_load] at found
  rw [Prog.perform_exceptBind (perform_set loaded saved), CurrentVm.find?]
  exact congrArg Prod.fst (Prog.perform_exceptBind found)

/-- A working file stands in for the memory, and the memory for the file: the same operations ask
the same, and with that save as often, and are answered the same, and then the file holds the
document that is in memory. A pointer must never be an empty text, which a file cannot tell from
none. -/
theorem stores_interchangeable (store : FileStore) (name : Nat → String) (machine : Machine)
    (memory : MemoryStore) (steps : List RepositoryStep) (works : store.Works name machine)
    (holds : store.read.perform (Machine.answer name) machine = (.ok memory.document, machine))
    (given : machine.given = memory.given)
    (whole : ∀ document, memory.document = some document → document.Whole)
    (storable : ∀ step ∈ steps, step.Storable)
    (named : ∀ early, early <+: steps →
      (performAll (MemoryStore.answer name) early memory).2.Named) :
    let inFile := performAll (store.onMachine name) steps machine
    let inMemory := performAll (MemoryStore.answer name) steps memory
    inFile.1 = inMemory.1 ∧
      store.read.perform (Machine.answer name) inFile.2 = (.ok inMemory.2.document, inFile.2) ∧
      FindsAgain (store.onMachine name) inFile.2 inMemory.2.document ∧
      FindsAgain (MemoryStore.answer name) inMemory.2 inMemory.2.document := by
  rw [FileStore.read_perform] at holds
  have inStep : InStep store name machine memory :=
    ⟨works, congrArg Prod.fst holds, given, whole⟩
  obtain ⟨same, final⟩ := performAll_alike inStep storable named
  refine ⟨same, by rw [FileStore.read_perform, final.holds], ⟨?_, ?_⟩, ⟨?_, ?_⟩⟩
  · exact fun cid visible => (finds_current_vm final visible).1
  · intro document present kind id visible has
    obtain ⟨record, named, inFile, _⟩ := finds_current_record final present visible has
    exact ⟨record, named, inFile⟩
  · exact fun cid visible => (finds_current_vm final visible).2
  · intro document present kind id visible has
    obtain ⟨record, named, _, inMemory⟩ := finds_current_record final present visible has
    exact ⟨record, named, inMemory⟩

theorem works_in_root (name : Nat → String) : FileStore.Works ⟨⟨"s"⟩⟩ name {} :=
  @FileStore.works_of_save _ _ _ {} (by rfl)

theorem reads_nothing (name : Nat → String) :
    (⟨⟨"s"⟩⟩ : FileStore).read.perform (Machine.answer name) {} = (.ok none, {}) := rfl

theorem stores_interchangeable_for_a_disk :
    let store : FileStore := ⟨⟨"s"⟩⟩
    let name := fun _ : Nat => "id"
    let steps : List RepositoryStep :=
      [.setCurrentVm ⟨"vm"⟩, .insert .disk ⟨"cid"⟩ {}, @RepositoryStep.setCurrent .disk ⟨"id"⟩]
    let inFile := performAll (store.onMachine name) steps {}
    let inMemory := performAll (MemoryStore.answer name) steps {}
    store.Works name {} ∧ store.read.perform (Machine.answer name) {} = (.ok none, {}) ∧
      (∀ step ∈ steps, step.Storable) ∧
      (∀ early, early <+: steps → (performAll (MemoryStore.answer name) early {}).2.Named) ∧
      inFile.1 = inMemory.1 ∧
      store.read.perform (Machine.answer name) inFile.2 = (.ok inMemory.2.document, inFile.2) ∧
      FindsAgain (store.onMachine name) inFile.2 inMemory.2.document ∧
      FindsAgain (MemoryStore.answer name) inMemory.2 inMemory.2.document := by
  intro store name steps
  have storable : ∀ step ∈ steps, step.Storable := by
    simp only [steps, List.forall_mem_cons]
    exact ⟨trivial, ⟨⟨List.Pairwise.nil, trivial⟩, trivial⟩, trivial, nofun⟩
  have named : ∀ early, early <+: steps →
      (performAll (MemoryStore.answer name) early {}).2.Named := by
    intro early isPrefix
    simp only [steps, List.prefix_cons_iff, List.prefix_nil] at isPrefix
    rcases isPrefix with rfl | ⟨_, rfl, rfl | ⟨_, rfl, rfl | ⟨_, rfl, rfl⟩⟩⟩ <;>
      intro document same
    · cases same
    all_goals
      cases same
      exact ⟨by decide, fun kind => by cases kind <;> decide⟩
  exact ⟨works_in_root name, reads_nothing name, storable, named,
    stores_interchangeable store name {} {} steps (works_in_root name) (reads_nothing name) rfl
      nofun storable named⟩

/-- An empty current VM is found in memory, but not in a file. -/
theorem empty_pointer_tells_stores_apart :
    let store : FileStore := ⟨⟨"s"⟩⟩
    let name := fun _ : Nat => "id"
    let program : Store.Program _ := do CurrentVm.set ⟨""⟩; CurrentVm.find?
    store.Works name {} ∧ store.read.perform (Machine.answer name) {} = (.ok none, {}) ∧
      (program.run.perform (store.onMachine name) {}).1 = .ok none ∧
      (program.run.perform (MemoryStore.answer name) {}).1 = .ok (some ⟨""⟩) := by
  have works := works_in_root fun _ => "id"
  exact ⟨works, reads_nothing _, emptied_in_file works rfl, rfl⟩

end DeploymentLifecycle
