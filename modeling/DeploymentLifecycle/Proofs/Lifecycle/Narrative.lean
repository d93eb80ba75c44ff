import DeploymentLifecycle.Proofs.Lifecycle.DeletionOrder
import DeploymentLifecycle.Proofs.Lifecycle.Operation

namespace DeploymentLifecycle.Lifecycle

/-! What an operation tells of itself. It goes through one stage after another, each reported from
its start to its end, and between the stages it only looks. -/

open Request

namespace Request

def IsReport : Request → Prop
  | .stageBegun _ | .stageEnded .. => True
  | _ => False

/-- What is asked for outside of stages. -/
def IsLook : Request → Prop
  | .hasVm _ | .listDisk | .store .load | .store .read => True
  | _ => False

/-- What is done in a stage, unless it is one in which an agent is waited for. -/
def IsWork (request : Request) : Prop := ¬ request.IsReport ∧ ¬ request.IsPing

theorem IsTime.work {request : Request} (time : request.IsTime) : request.IsWork := by
  cases request <;> first | exact ⟨id, id⟩ | exact time.elim

end Request

/-- The error that an operation ends in when this is what it is answered. -/
def refusal? : Event signature → Option LifecycleError
  | ⟨.store .load, .error e⟩ | ⟨.store .read, .error e⟩ | ⟨.store (.save _), .error e⟩ =>
    some (.state e)
  | ⟨.hasVm _, .error e⟩ | ⟨.delete .., .error e⟩ => some (.cloud e)
  | ⟨.runScript .., .error e⟩ | ⟨.drain _, .error e⟩ | ⟨.stop, .error e⟩ | ⟨.start, .error e⟩
  | ⟨.listDisk, .error e⟩ | ⟨.unmountDisk _, .error e⟩ => some (.agent e)
  | _ => none

/-- A stage as it was reported, with all that happened within. -/
structure Stage where
  label : String
  within : List (Event signature)
  outcome : Outcome
  elapsed : Duration

namespace Stage

def events (reported : Stage) : List (Event signature) :=
  ⟨.stageBegun reported.label, ()⟩ ::
    (reported.within ++ [⟨.stageEnded reported.label reported.outcome reported.elapsed, ()⟩])

/-- A stage with its work between two looks at the clock. -/
def timed (label : String) (started : Duration) (work : List (Event signature)) (ended : Duration)
    (outcome : Outcome) : Stage :=
  ⟨label, ⟨.now, started⟩ :: (work ++ [⟨.now, ended⟩]), outcome, ended - started⟩

theorem events_timed {label : String} {started ended : Duration} {work : List (Event signature)}
    {outcome : Outcome} : (timed label started work ended outcome).events =
      ⟨.stageBegun label, ()⟩ :: ⟨.now, started⟩ ::
        (work ++ [⟨.now, ended⟩, ⟨.stageEnded label outcome (ended - started), ()⟩]) := by
  simp [events, timed]

theorem within_timed {label : String} {started ended : Duration} {work : List (Event signature)}
    {outcome : Outcome} (only : Request → Prop) (clock : only .now)
    (working : ∀ event ∈ work, only event.request) :
    ∀ event ∈ (timed label started work ended outcome).within, only event.request :=
  List.forall_mem_cons.2 ⟨clock, List.forall_mem_append.2
    ⟨working, List.forall_mem_singleton.2 clock⟩⟩

def waitOpening : String := "Waiting for the agent on VM '"

/-- An agent is waited for: the label says so, or there is a ping. -/
def Waits (reported : Stage) : Prop :=
  (∃ rest, reported.label = waitOpening ++ rest) ∨ ∃ event ∈ reported.within, event.request.IsPing

/-- No label that begins like this is of a stage in which an agent is waited for. -/
def Elsewhere (opening : String) : Prop :=
  ¬ opening.toList <+: waitOpening.toList ∧ ¬ waitOpening.toList <+: opening.toList

instance {opening : String} : Decidable (Elsewhere opening) :=
  inferInstanceAs (Decidable (_ ∧ _))

theorem Elsewhere.not_waits {opening rest other : String} (elsewhere : Elsewhere opening) :
    opening ++ rest ≠ waitOpening ++ other := by
  intro same
  have begins : opening.toList <+: (waitOpening ++ other).toList :=
    ⟨rest.toList, by rw [← same, String.toList_append]⟩
  have waits : waitOpening.toList <+: (waitOpening ++ other).toList :=
    ⟨other.toList, String.toList_append.symm⟩
  rcases List.prefix_or_prefix_of_prefix begins waits with shorter | longer
  · exact elsewhere.1 shorter
  · exact elsewhere.2 longer

end Stage

/-- What a run consists of. -/
inductive Passage where
  | look (event : Event signature)
  | stage (reported : Stage)

def Passage.events : Passage → List (Event signature)
  | .look event => [event]
  | .stage reported => reported.events

/-- The passages tell all of a run, and how it ended: the stage that failed is the last of all, with
the very error that the run ended in, and an error that is not of a stage is of a look. -/
structure Tells {α : Type} (passages : List Passage) (trace : List (Event signature))
    (result : Except LifecycleError α) : Prop where
  whole : trace = passages.flatMap Passage.events
  looks : ∀ event, .look event ∈ passages → event.request.IsLook
  within : ∀ reported, .stage reported ∈ passages →
    ∀ event ∈ reported.within, ¬ event.request.IsReport
  waits : ∀ reported, .stage reported ∈ passages → reported.Waits →
    ∀ error, reported.outcome ≠ .failed error
  failed : ∀ early reported late error, passages = early ++ .stage reported :: late →
    reported.outcome = .failed error → late = [] ∧ result = .error error
  refused : ∀ error, result = .error error →
    (∃ early reported, passages = early ++ [.stage reported] ∧ reported.outcome = .failed error) ∨
      ∃ early event, passages = early ++ [.look event] ∧ refusal? event = some error

variable {α β : Type} {first rest trace : List (Event signature)} {passages more : List Passage}

namespace Tells

theorem nil (value : α) : Tells [] [] (.ok value) where
  whole := rfl
  looks := by simp
  within := by simp
  waits := by simp
  failed := by simp
  refused := nofun

theorem error {error : LifecycleError} (tells : Tells passages trace (.error error : Except _ α)) :
    Tells passages trace (.error error : Except _ β) where
  whole := tells.whole
  looks := tells.looks
  within := tells.within
  waits := tells.waits
  failed early reported late reason same fails := by
    obtain ⟨last, ends⟩ := tells.failed early reported late reason same fails
    cases ends
    exact ⟨last, rfl⟩
  refused reason same := by
    cases same
    exact tells.refused error rfl

theorem append {value : α} {result : Except LifecycleError β}
    (tells : Tells passages first (.ok value)) (goesOn : Tells more rest result) :
    Tells (passages ++ more) (first ++ rest) result where
  whole := by rw [tells.whole, goesOn.whole, List.flatMap_append]
  looks event member := (List.mem_append.1 member).elim (tells.looks event) (goesOn.looks event)
  within reported member :=
    (List.mem_append.1 member).elim (tells.within reported) (goesOn.within reported)
  waits reported member :=
    (List.mem_append.1 member).elim (tells.waits reported) (goesOn.waits reported)
  failed early reported late error same fails := by
    -- No stage of the first part failed, for that one ended well.
    have absent : .stage reported ∉ passages := by
      intro member
      obtain ⟨before, after, split⟩ := List.append_of_mem member
      cases (tells.failed before reported after error split fails).2
    obtain ⟨between, _, later⟩ := split_rest same absent
    exact goesOn.failed between reported late error later fails
  refused error same := by
    rcases goesOn.refused error same with
      ⟨early, reported, rfl, fails⟩ | ⟨early, event, rfl, refused⟩
    · exact .inl ⟨passages ++ early, reported, (List.append_assoc ..).symm, fails⟩
    · exact .inr ⟨passages ++ early, event, (List.append_assoc ..).symm, refused⟩

theorem look {event : Event signature} {result : Except LifecycleError α}
    (look : event.request.IsLook)
    (refused : ∀ error, result = .error error → refusal? event = some error) :
    Tells [.look event] [event] result where
  whole := rfl
  looks other member := by
    obtain rfl : other = event := by simpa using member
    exact look
  within := by simp
  waits := by simp
  failed early reported late error same := by
    have member : Passage.stage reported ∈ [Passage.look event] := by simp [same]
    simp at member
  refused error same := .inr ⟨[], event, rfl, refused error same⟩

theorem stage {reported : Stage} {result : Except LifecycleError α}
    (within : ∀ event ∈ reported.within, ¬ event.request.IsReport)
    (waits : reported.Waits → ∀ error, reported.outcome ≠ .failed error)
    (ends : ∀ error, reported.outcome = .failed error ↔ result = .error error) :
    Tells [.stage reported] reported.events result where
  whole := (List.append_nil _).symm
  looks := by simp
  within other member := by
    obtain rfl : other = reported := by simpa using member
    exact within
  waits other member := by
    obtain rfl : other = reported := by simpa using member
    exact waits
  failed early other late error same fails := by
    cases early with
    | nil =>
        cases same
        exact ⟨rfl, (ends error).1 fails⟩
    | cons _ _ => simp at same
  refused error same := .inl ⟨[], reported, rfl, (ends error).2 same⟩

end Tells

/-- Whoever answers, there are passages that tell the whole run. -/
def Told (program : Program α) : Prop :=
  ∀ trace result, program.run.Yields trace result → ∃ passages, Tells passages trace result

theorem told_pure (value : α) : Told (pure value) := by
  intro trace result run
  obtain ⟨rfl, rfl⟩ := run
  exact ⟨[], .nil value⟩

theorem told_bind {program : Program α} {next : α → Program β} (told : Told program)
    (goesOn : ∀ value, Told (next value)) : Told (program >>= next) := by
  intro trace result run
  rcases Prog.yields_exceptBind.1 run with
    ⟨error, rfl, failing⟩ | ⟨value, first, rest, rfl, start, finish⟩
  · obtain ⟨passages, tells⟩ := told trace _ failing
    exact ⟨passages, tells.error⟩
  · obtain ⟨passages, tells⟩ := told first _ start
    obtain ⟨more, goesOn⟩ := goesOn value rest result finish
    exact ⟨passages ++ more, tells.append goesOn⟩

theorem told_forM {items : List β} {act : β → Program Unit} (told : ∀ item, Told (act item)) :
    Told (items.forM act) := by
  induction items with
  | nil => exact told_pure ()
  | cons item rest ih => exact told_bind (told item) fun _ => ih

section Looks

/-- A part of an operation that is one request, with its error made one of the operation. -/
theorem told_look {ε : Type} {convert : ε → LifecycleError} {call : Prog signature (Except ε α)}
    (request : Request) (given : Answer request → Except ε α)
    (asked : ∀ trace answer, call.Yields trace answer →
      ∃ reply, trace = [⟨request, reply⟩] ∧ answer = given reply)
    (look : request.IsLook)
    (refused : ∀ reply error, given reply = .error error →
      refusal? ⟨request, reply⟩ = some (convert error)) :
    Told (ExceptT.mk do return (← call).mapError convert) := by
  intro trace result run
  obtain ⟨answer, called, rfl⟩ := mapError_yields run
  obtain ⟨reply, rfl, rfl⟩ := asked trace answer called
  refine ⟨[.look ⟨request, reply⟩], .look look fun error same => ?_⟩
  cases found : given reply with
  | ok value =>
      rw [found] at same
      cases same
  | error cause =>
      rw [found] at same
      cases same
      exact refused reply cause found

theorem told_hasVm {vm : Cid .vm} : Told (cloudCall (ask (.hasVm vm))) := by
  refine told_look (.hasVm vm) id (fun trace answer run => ?_) trivial fun reply error same => ?_
  · exact ⟨answer, Prog.yields_request.1 run, rfl⟩
  · cases same
    rfl

theorem told_listDisk : Told (agentCall (ask .listDisk)) := by
  refine told_look .listDisk id (fun trace answer run => ?_) trivial fun reply error same => ?_
  · exact ⟨answer, Prog.yields_request.1 run, rfl⟩
  · cases same
    rfl

/-- A part of what is stored, which is there unless the document cannot be loaded. -/
theorem told_loaded (view : Document → α) :
    Told (stored do return view (← Store.load)) := by
  refine told_look (.store .load) (fun reply => reply.map view) ?_ trivial ?_
  · intro trace answer run
    obtain ⟨reply, _, rfl, run⟩ := run
    cases reply with
    | ok document =>
        obtain ⟨rfl, rfl⟩ := run
        exact ⟨.ok document, rfl, rfl⟩
    | error error =>
        obtain ⟨rfl, rfl⟩ := run
        exact ⟨.error error, rfl, rfl⟩
  · intro reply error same
    cases reply with
    | ok document => cases same
    | error cause =>
        cases same
        rfl

theorem told_read : Told (stored Store.read) := by
  refine told_look (.store .read) id ?_ trivial ?_
  · intro trace answer run
    obtain ⟨reply, _, rfl, rfl, rfl⟩ := run
    exact ⟨_, rfl, rfl⟩
  · intro reply error same
    cases same
    rfl

end Looks

section Stages

theorem told_perform {label : String} {work : Program Step} (opening : String)
    (begins : ∃ rest, label = opening ++ rest) (elsewhere : Stage.Elsewhere opening)
    (asks : work.run.Asks IsWork) : Told (perform label work) := by
  obtain ⟨rest, rfl⟩ := begins
  intro trace result run
  obtain ⟨started, middle, ended, outcome, rfl, worked, rfl⟩ := perform_trace run
  let reported := Stage.timed (opening ++ rest) started middle ended (.ofResult outcome)
  have working : ∀ event ∈ reported.within, event.request.IsWork :=
    Stage.within_timed IsWork ⟨id, id⟩ (asks.trace worked)
  rw [← Stage.events_timed]
  have within : ∀ event ∈ reported.within, ¬ event.request.IsReport :=
    fun event member => (working event member).1
  refine ⟨[.stage reported], .stage within ?_ fun error => ?_⟩
  · rintro (⟨other, same⟩ | ⟨event, member, ping⟩)
    · exact absurd same elsewhere.not_waits
    · exact absurd ping (working event member).2
  · rcases outcome with reason | ⟨⟩ | reason <;>
      simp [reported, Stage.timed, Outcome.ofResult, Step.outcome, Except.map]

theorem told_agentStage {label : String} {call : Prog signature (Except AgentError Unit)}
    (opening : String) (begins : ∃ rest, label = opening ++ rest)
    (elsewhere : Stage.Elsewhere opening) (asks : call.Asks IsWork) :
    Told (agentStage label call) :=
  told_perform opening begins elsewhere ((agentCall_asks asks).exceptBind fun _ => trivial)

theorem told_awaitAgent {target : Instance} {policy : PingPolicy} :
    Told (target.awaitAgent policy) := by
  -- The work here cannot fail, so it does not go through `perform`.
  intro trace result run
  obtain ⟨started, pings, ended, reachable, rfl, waiting, rfl⟩ := awaitAgent_trace run
  have asks : (isReachable policy).Asks fun request : Request => ¬ request.IsReport :=
    isReachable_asks (fun request time => time.work.1) (fun _ => id) policy
  let outcome : Outcome :=
    if reachable then .done else .skipped ("agent unreachable after " ++ policy.timeout.short)
  have well : ∀ error, outcome ≠ .failed error := by
    cases reachable <;> exact nofun
  let reported := Stage.timed ("Waiting for the agent on VM '" ++ target.vm.text ++ "'") started
    pings ended outcome
  have working : ∀ event ∈ reported.within, ¬ event.request.IsReport :=
    Stage.within_timed (¬ ·.IsReport) id (asks.trace waiting)
  have told : Tells [.stage reported] reported.events (.ok reachable : Except _ Bool) :=
    .stage working (fun _ => well) fun error => ⟨fun fails => absurd fails (well error), nofun⟩
  rw [Instance.gateStage, ← Stage.events_timed]
  exact ⟨[.stage reported], told⟩

end Stages

namespace Instance

variable {target : Instance} {settings : Settings} {skipDrain : Bool}

theorem begins_labelled {text : String} : ∃ rest, target.labelled text = text ++ rest :=
  ⟨" '" ++ (target.name.label ++ "'"), by simp only [labelled, String.append_assoc]⟩

theorem runScript_told {name : String} : Told (target.runScript name) := by
  have begins : ∃ rest, target.labelled ("Running the " ++ name ++ " scripts") =
      "Running the " ++ rest := by
    simp only [labelled, String.append_assoc, exists_apply_eq_apply']
  exact told_agentStage "Running the " begins (by decide) (asks_ask.2 ⟨id, id⟩)

theorem stopJobs_told : Told (target.stopJobs skipDrain) := by
  have draining : Told (agentStage (target.labelled "Draining jobs on instance")
      (ask (.drain drainReason))) :=
    told_agentStage _ begins_labelled (by decide) (asks_ask.2 ⟨id, id⟩)
  have stopping : Told (do
      agentStage (target.labelled "Stopping jobs on instance") (ask .stop)
      target.runScript "post-stop" : Program Unit) :=
    told_bind (told_agentStage _ begins_labelled (by decide) (asks_ask.2 ⟨id, id⟩))
      fun _ => runScript_told
  refine told_bind runScript_told fun _ => ?_
  dsimp only
  split
  · exact told_bind draining fun _ => stopping
  · exact stopping

theorem unmountDisk_told {disk : Cid .disk} : Told (unmountDisk disk) :=
  told_agentStage "Unmounting disk '" ⟨_, String.append_assoc⟩ (by decide) (asks_ask.2 ⟨id, id⟩)

theorem unmountDisks_told : Told unmountDisks :=
  told_bind told_listDisk fun _ => told_forM fun _ => unmountDisk_told

theorem deleteVm_told : Told target.deleteVm := by
  refine told_perform "Deleting VM '" ⟨_, String.append_assoc⟩ (by decide) ?_
  exact deletionWork_asks (fun _ => ⟨id, id⟩) ⟨id, id⟩ fun deletion => by
    cases deletion <;> trivial

theorem stop_told : Told (target.stop settings skipDrain) := by
  refine told_bind told_awaitAgent fun reachable => ?_
  cases reachable with
  | false => exact told_pure ()
  | true => exact stopJobs_told

theorem start_told {update : UpdatePolicy} : Told (target.start settings update) := by
  have starting : Told (agentStage (target.labelled "Starting the agent") (ask .start)) :=
    told_agentStage _ begins_labelled (by decide) (asks_ask.2 ⟨id, id⟩)
  have watching : Told (perform
      ("Waiting for instance '" ++ target.name.label ++ "' to be running") do
        untilRunning update target.name
        return .done) := by
    have asks := untilRunning_asks (fun _ time => time.work) ⟨id, id⟩ update target.name
    have begins : ∃ rest, "Waiting for instance '" ++ target.name.label ++ "' to be running" =
        "Waiting for instance '" ++ rest := ⟨_, String.append_assoc⟩
    exact told_perform _ begins (by decide) (asks.exceptBind fun _ => trivial)
  refine told_bind told_awaitAgent fun reachable => ?_
  cases reachable with
  | false => exact told_pure ()
  | true =>
      refine told_bind runScript_told fun _ => ?_
      exact told_bind starting fun _ => told_bind watching fun _ => runScript_told

theorem delete_told : Told (target.delete settings skipDrain) := by
  have emptying : Told (do
      target.stopJobs skipDrain
      unmountDisks
      target.deleteVm) :=
    told_bind stopJobs_told fun _ => told_bind unmountDisks_told fun _ => deleteVm_told
  refine told_bind told_hasVm fun known => ?_
  cases known with
  | false => exact deleteVm_told
  | true =>
      refine told_bind told_awaitAgent fun reachable => ?_
      cases reachable with
      | false => exact deleteVm_told
      | true => exact emptying

end Instance

section Releases

variable {kind : Kind} {record : Record kind}

theorem release_told {label : String} (opening : String)
    (begins : ∃ rest, label = opening ++ rest) (elsewhere : Stage.Elsewhere opening) :
    Told (release label record) := by
  refine told_perform opening begins elsewhere ?_
  exact deletionWork_asks (fun _ => ⟨id, id⟩) ⟨id, id⟩ fun deletion => by
    cases deletion <;> trivial

theorem releaseCurrent_told : Told (releaseCurrent record) := by
  refine told_bind (told_loaded fun document => (document.inventory kind).currentRecord?) ?_
  intro current
  cases current with
  | none => exact told_pure ()
  | some current =>
      dsimp only
      split
      · refine release_told "Deleting " ?_ (by decide)
        simp only [String.append_assoc, exists_apply_eq_apply']
      · exact told_pure ()

theorem releaseUnused_told : Told (releaseUnused kind) := by
  refine told_bind (told_loaded fun document => (document.inventory kind).unused) fun unused => ?_
  refine told_forM fun record => release_told "Deleting unused " ?_ (by decide)
  simp only [String.append_assoc, exists_apply_eq_apply']

theorem cleanup_told : Told cleanup :=
  told_bind releaseUnused_told fun _ => releaseUnused_told

end Releases

namespace Deployment

theorem current?_told (settings : Settings) : Told (current? settings) := by
  have vmInstance : Told (currentInstance? settings) :=
    told_bind (told_loaded (·.currentVm)) fun _ => told_pure _
  have record : ∀ kind, Told (currentRecord? kind) :=
    fun kind => told_loaded fun document => (document.inventory kind).currentRecord?
  exact told_bind vmInstance fun _ => told_bind (record .disk) fun _ =>
    told_bind (record .stemcell) fun _ => told_pure _

theorem Consumed.tells {handle : Option α} {delete : α → Program Unit}
    {result : Except LifecycleError Unit} (consumed : Consumed handle delete trace result)
    (told : ∀ held, Told (delete held)) : ∃ passages, Tells passages trace result := by
  rcases consumed with ⟨_, rfl, rfl⟩ | ⟨held, _, run⟩
  · exact ⟨[], .nil ()⟩
  · exact told held trace result run

theorem delete_told (deployment : Deployment) (settings : Settings) (skipDrain : Bool) :
    Told (ExceptT.mk do return (← deployment.delete settings skipDrain).2) := by
  intro trace result run
  obtain ⟨⟨left, _⟩, _, _, rfl, deleting, rfl, rfl⟩ := Prog.yields_bind.1 run
  rw [List.append_nil]
  cases delete_dismantles deleting with
  | atInstance vmRun => exact vmRun.tells fun _ => Instance.delete_told
  | atDisk vmRun diskRun =>
      obtain ⟨passages, vm⟩ := vmRun.tells fun _ => Instance.delete_told
      obtain ⟨more, disk⟩ := diskRun.tells fun _ => releaseCurrent_told
      exact ⟨passages ++ more, vm.append disk⟩
  | atStemcell vmRun diskRun stemcellRun =>
      obtain ⟨passages, vm⟩ := vmRun.tells fun _ => Instance.delete_told
      obtain ⟨more, disk⟩ := diskRun.tells fun _ => releaseCurrent_told
      obtain ⟨last, stemcell⟩ := stemcellRun.tells fun _ => releaseCurrent_told
      exact ⟨passages ++ (more ++ last), vm.append (disk.append stemcell)⟩
  | complete vmRun diskRun stemcellRun =>
      obtain ⟨passages, vm⟩ := vmRun.tells fun _ => Instance.delete_told
      obtain ⟨more, disk⟩ := diskRun.tells fun _ => releaseCurrent_told
      obtain ⟨last, stemcell⟩ := stemcellRun.tells fun _ => releaseCurrent_told
      exact ⟨passages ++ (more ++ last), vm.append (disk.append stemcell)⟩

end Deployment

/-- Whoever answers, an operation reports stage after stage truthfully, with nothing but looks
between them. -/
theorem stages_reported_truthfully {settings : Settings} {operation : Operation}
    {result : Except LifecycleError Unit}
    (run : (operation.program settings).run.Yields trace result) :
    ∃ passages, Tells passages trace result := by
  suffices told : Told (operation.program settings) from told trace result run
  cases operation with
  | lookUp => exact told_bind (Deployment.current?_told settings) fun _ => told_pure ()
  | status => exact told_bind (told_bind told_read fun _ => told_pure _) fun _ => told_pure ()
  | stop deployment skipDrain =>
      rw [Operation.program, Deployment.stop]
      split
      · exact Instance.stop_told
      · exact told_pure ()
  | start deployment update =>
      rw [Operation.program, Deployment.start]
      split
      · exact Instance.start_told
      · exact told_pure ()
  | delete deployment skipDrain => exact deployment.delete_told settings skipDrain
  | deleteInstance target skipDrain => exact Instance.delete_told
  | releaseCurrent record => exact releaseCurrent_told
  | releaseUnused kind => exact releaseUnused_told
  | cleanup => exact cleanup_told

/-- The provider refuses to delete a VM that it claimed not to know. -/
theorem refused_deletion_reported : ∃ trace passages,
    ((Operation.deleteInstance ⟨{}, ⟨"vm-1"⟩⟩ false).program {}).run.Yields trace
      (.error (.cloud (.timeout "delete_vm" .zero))) ∧
    Tells passages trace
      (.error (.cloud (.timeout "delete_vm" .zero)) : Except LifecycleError Unit) := by
  let label := "Deleting VM 'vm-1'"
  let refusal : CloudError := .timeout "delete_vm" .zero
  let trace : List (Event signature) := [⟨.hasVm ⟨"vm-1"⟩, .ok false⟩, ⟨.stageBegun label, ()⟩,
    ⟨.now, .zero⟩, ⟨.delete .vm ⟨"vm-1"⟩, .error refusal⟩, ⟨.now, .zero⟩,
    ⟨.stageEnded label (.failed (.cloud refusal)) .zero, ()⟩]
  have run : ((Operation.deleteInstance ⟨{}, ⟨"vm-1"⟩⟩ false).program {}).run.Yields trace
      (.error (.cloud refusal)) := by
    repeat refine ⟨_, _, rfl, ?_⟩
    exact ⟨rfl, rfl⟩
  obtain ⟨passages, tells⟩ := stages_reported_truthfully run
  exact ⟨trace, passages, run, tells⟩

end DeploymentLifecycle.Lifecycle
