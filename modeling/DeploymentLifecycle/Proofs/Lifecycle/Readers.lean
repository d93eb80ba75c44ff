import DeploymentLifecycle.Proofs.Lifecycle.KeptHandles
import DeploymentLifecycle.Proofs.Lifecycle.Serving

namespace DeploymentLifecycle

/-! All that is read of a stored document, by whatever way, agrees. -/

namespace Inventory

variable {kind : Kind} {inventory : Inventory kind} {record : Record kind}
  {early late : List (Record kind)}

/-- Where no record is current, all are unused. -/
theorem unused_of_none (absent : inventory.currentRecord? = none) :
    inventory.unused = inventory.records := by
  apply List.filter_eq_self.2
  intro record member
  rw [bne_iff_ne]
  intro named
  rw [currentRecord?, ← named, Option.bind_some, List.find?_eq_none] at absent
  exact absent record member BEq.rfl

/-- Where the ids tell the records apart, all but the current one are unused, in their order. -/
theorem exists_split_of_current (ids : (inventory.records.map (·.id)).Nodup)
    (current : inventory.currentRecord? = some record) : ∃ early late,
      inventory.records = early ++ record :: late ∧ inventory.unused = early ++ late := by
  obtain ⟨member, pointer⟩ := currentRecord?_eq_some current
  obtain ⟨early, late, split⟩ := List.append_of_mem member
  refine ⟨early, late, split, ?_⟩
  have others : ∀ other ∈ early ++ late, some other.id != inventory.current := by
    intro other among
    rw [pointer, bne_iff_ne]
    intro same
    rw [split, List.map_append, List.map_cons, List.nodup_middle, List.nodup_cons,
      ← List.map_append] at ids
    exact ids.1 (List.mem_map.2 ⟨other, among, Option.some.inj same⟩)
  rw [unused, split, List.filter_append, List.filter_cons_of_neg (by simp [pointer]),
    ← List.filter_append, List.filter_eq_self.2 others]

end Inventory

namespace Lifecycle

variable {α : Type} {program : Program α} {value : α} {stored : Option Document}
  {document : Document}

/-- A program only reads: whatever happens, the stored document stays as it is, and unless a request
fails, the program comes to the value. -/
structure Reports (program : Program α) (stored : Option Document) (value : α) : Prop where
  served : ∃ trace, program.run.Yields trace (.ok value) ∧
    surroundings.Along stored trace stored
  always : ∀ trace result after, program.run.Yields trace result →
    surroundings.Along stored trace after → after = stored ∧
      (result = .ok value ∨ (∃ error, result = .error error) ∧ ∃ event ∈ trace, Fails event)

theorem reports_of_keeps (stops : StopsAtFailure program)
    (keeps : program.run.Keeps freely ⟨stored, []⟩ fun result after =>
      after.stored = stored ∧ ∀ found, result = .ok found → found = value) :
    Reports program stored value := by
  constructor
  · obtain ⟨trace, result, after, run, success, along, _⟩ :=
      World.exists_success ⟨stored, ∅⟩ stops
    have along := World.along_stored along
    obtain ⟨found, rfl⟩ := ok_of_isOk success
    obtain ⟨same, read⟩ := ends_of_keeps keeps run along
    obtain rfl := read found rfl
    exact ⟨trace, run, same ▸ along⟩
  · intro trace result after run along
    obtain ⟨same, read⟩ := ends_of_keeps keeps run along
    refine ⟨same, ?_⟩
    cases result with
    | ok found => exact .inl (by rw [read found rfl])
    | error error =>
        refine .inr ⟨⟨error, rfl⟩, ?_⟩
        by_contra none
        have success := (stops.success_iff run).2 fun event member fails =>
          none ⟨event, member, fails⟩
        cases success

theorem Reports.unique {other : α} (reports : Reports program stored value)
    (again : Reports program stored other) : value = other := by
  obtain ⟨trace, run, along⟩ := reports.served
  rcases (again.always trace _ _ run along).2 with same | ⟨⟨_, failed⟩, _⟩
  · exact Except.ok.inj same
  · cases failed

/-- What looks at the document that it loads reports what is in it. -/
theorem reports_view (view : Document → α) :
    Reports (Lifecycle.stored do return view (← Store.load)) (some document) (view document) := by
  apply reports_of_keeps
  · exact stored_stops (Store.load_stops fun _ => rfl)
  · refine keeps_stored (Store.keeps_view.2 ⟨fun _ => ⟨rfl, nofun⟩, fun found finds => ?_⟩)
    cases finds with
    | stored => exact ⟨rfl, fun _ same => (Except.ok.inj same).symm⟩

/-- The status makes no document where there is none. -/
theorem status_reports : Reports Deployment.status stored (stored.map Status.ofDocument) := by
  have reads : Store.read.run.StopsAtFailure Store.policy := by
    intro answer
    cases answer with
    | error error => exact ⟨fun _ => nofun, fun fine => (fine trivial).elim⟩
    | ok found => exact ⟨fun fails => fails.elim, fun _ => rfl⟩
  apply reports_of_keeps
  · exact stops_bind (stored_stops reads) fun _ => rfl
  · refine Prog.keeps_bind.2 (keeps_stored ⟨trivial, fun answer after step => ?_⟩)
    cases step with
    | read => exact ⟨rfl, fun _ same => (Except.ok.inj same).symm⟩
    | notRead => exact ⟨rfl, nofun⟩

theorem Deployment.found?_eq_none {settings : Settings} : found? settings document = none ↔
    document.currentVm = none ∧ (document.inventory .disk).currentRecord? = none ∧
      (document.inventory .stemcell).currentRecord? = none := by
  simp [found?, isEmpty, ofDocument, and_assoc]

theorem current?_reports (settings : Settings) :
    Reports (Deployment.current? settings) (some document)
      (Deployment.found? settings document) := by
  apply reports_of_keeps (Deployment.current?_stops settings)
  apply Deployment.current?_keeps
  · exact fun _ => ⟨rfl, nofun⟩
  · intro error found finds
    cases finds with
    | stored => exact ⟨rfl, nofun⟩
  · intro found finds
    cases finds with
    | stored => exact ⟨rfl, fun _ same => (Except.ok.inj same).symm⟩

/-- A cleanup that is not refused anything has the unused records of the document deleted. -/
theorem cleanup_deletions {trace : List (Event signature)} {result : Except LifecycleError Unit}
    {after : Option Document} (run : cleanup.run.Yields trace result)
    (along : surroundings.Along (some document) trace after) (serving : Serving trace) :
    result = .ok () ∧ deletions trace = document.unusedAssets := by
  have asks : cleanup.run.Asks fun request : Request => ¬ request.IsAgent := by
    refine cleanup_asks ?_ (fun _ => id) fun _ _ => id
    intro request quiet
    cases request <;> first | exact quiet.elim | exact id
  have fine : ∀ event ∈ trace, ¬ Fails event :=
    fun event member fails => asks.trace run event member (serving event member fails)
  obtain ⟨⟨⟩, rfl⟩ := ok_of_isOk ((cleanup_stops.success_iff run).2 fine)
  have ends := ends_of_keeps cleanup_ends run along rfl
  rw [deletions_eq_agreements serving]
  exact ⟨rfl, congrArg Moment.agreed ends⟩

/-- What the readers of a document report, all of which agrees with its status and with the records
that are unused. -/
structure ReadersAgree (settings : Settings) (document : Document) (status : Status)
    (unused : (kind : Kind) → List (Record kind)) : Prop where
  reported : Reports Deployment.status (some document) (some status)
  vm : Reports (Lifecycle.stored CurrentVm.find?) (some document) status.vm
  disk : Reports (currentRecord? .disk) (some document) status.disk
  stemcell : Reports (currentRecord? .stemcell) (some document) status.stemcell
  listed : ∀ kind, Reports (Lifecycle.stored (Records.unused kind)) (some document) (unused kind)
  disksCounted : status.unusedDisks = (unused .disk).length
  stemcellsCounted : status.unusedStemcells = (unused .stemcell).length
  deployment : ∃ found, Reports (Deployment.current? settings) (some document) found ∧
    (found = none ↔ status.vm = none ∧ status.disk = none ∧ status.stemcell = none) ∧
    ∀ deployment, found = some deployment → deployment =
      ⟨status.vm.map fun vm => ⟨settings.instanceName, vm⟩, status.disk, status.stemcell⟩
  cleanupRuns : ∀ strategy : Strategy, strategy.ProviderServes →
    ∃ trace result after past, cleanup.run.Yields trace result ∧
      strategy.conduct.Along (some document, []) trace (after, past) ∧
      surroundings.Along (some document) trace after ∧ Serving trace
  cleanup : ∀ trace result after, cleanup.run.Yields trace result →
    surroundings.Along (some document) trace after → Serving trace → result = .ok () ∧
      deletions trace = (unused .disk).map (·.asset) ++ (unused .stemcell).map (·.asset)
  all : ∀ kind, ((document.inventory kind).records.map (·.id)).Nodup → ∃ early current late,
    Reports (Lifecycle.stored (Records.all kind)) (some document)
        (early ++ Option.toList current ++ late) ∧
      Reports (currentRecord? kind) (some document) current ∧ unused kind = early ++ late

/-- Whatever document is stored, with dangling pointers and with ids or CIDs that occur twice: all
that is read of it agrees, and a cleanup has deleted what is read to be unused. A status makes no
document where there is none. -/
theorem readers_agree (settings : Settings) (document : Document) :
    (∃ status unused, ReadersAgree settings document status unused) ∧
      Reports Deployment.status none none := by
  refine ⟨⟨Status.ofDocument document, fun kind => (document.inventory kind).unused, ?_⟩,
    status_reports⟩
  constructor
  case reported => exact status_reports
  case vm => exact reports_view (·.currentVm)
  case disk => exact reports_view fun document => (document.inventory .disk).currentRecord?
  case stemcell => exact reports_view fun document => (document.inventory .stemcell).currentRecord?
  case listed => exact fun kind => reports_view fun document => (document.inventory kind).unused
  case disksCounted => rfl
  case stemcellsCounted => rfl
  case deployment =>
    refine ⟨_, current?_reports settings, ?_, fun deployment found => ?_⟩
    · exact Deployment.found?_eq_none
    · rw [Deployment.found?] at found
      split at found <;> cases found
      rfl
  case cleanupRuns =>
    intro strategy serves
    obtain ⟨trace, result, after, past, run, along⟩ :=
      strategy.exists_run cleanup.run (some document)
    exact ⟨trace, result, after, past, run, along, Strategy.along_surroundings along,
      Strategy.serving serves along⟩
  case cleanup => exact fun trace result after => cleanup_deletions
  case all =>
    intro kind ids
    have all := @reports_view _ document fun document => (document.inventory kind).records
    have current := @reports_view _ document fun document =>
      (document.inventory kind).currentRecord?
    cases found : (document.inventory kind).currentRecord? with
    | none =>
        rw [found] at current
        refine ⟨[], none, (document.inventory kind).records, all, current, ?_⟩
        exact Inventory.unused_of_none found
    | some record =>
        obtain ⟨early, late, split, unused⟩ := Inventory.exists_split_of_current ids found
        rw [found] at current
        rw [split, List.append_cons] at all
        exact ⟨early, some record, late, all, current, unused⟩

/-- Two disks of one CID, and a pointer to a stemcell that dangles. -/
def tangled : Document where
  disks := ⟨some ⟨"new"⟩, [⟨⟨"old"⟩, ⟨"disk-1"⟩, {}⟩, ⟨⟨"new"⟩, ⟨"disk-1"⟩, {}⟩]⟩
  stemcells := { current := some ⟨"gone"⟩ }

theorem readers_agree_on_tangled : ∃ status unused,
    ReadersAgree {} tangled status unused ∧ status.unusedDisks = 1 ∧
      (∃ early current late, current = status.disk ∧
        Reports (Lifecycle.stored (Records.all .disk)) (some tangled)
          (early ++ Option.toList current ++ late) ∧ unused .disk = early ++ late) ∧
      Reports Deployment.status none none := by
  obtain ⟨⟨status, unused, agree⟩, blank⟩ := readers_agree {} tangled
  have same := agree.reported.unique status_reports
  obtain ⟨early, current, late, all, found, rest⟩ := agree.all .disk (by decide)
  cases same
  exact ⟨_, unused, agree, rfl, ⟨early, current, late, found.unique agree.disk, all, rest⟩, blank⟩

end Lifecycle

end DeploymentLifecycle
