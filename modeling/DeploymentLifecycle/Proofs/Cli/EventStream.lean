import DeploymentLifecycle.Proofs.Cli.Modes
import DeploymentLifecycle.Proofs.Cli.Notice
import DeploymentLifecycle.Proofs.Cli.Operation
import DeploymentLifecycle.Proofs.Cli.Terminal

namespace DeploymentLifecycle.Cli

/-! In the JSON mode a command tells of its stages and then of its end. Who reads what it prints
learns what happened, and nothing else is printed. -/

open Host (Displays Silent complained printed streamed)
open Prog (Expands)

section Reports

variable {connection : Connection} {told : List (Event Lifecycle.signature)}
  {trace : List (Event Host.signature)}

def stageLines (event : Event Lifecycle.signature) : List String :=
  match event.request with
  | .stageEnded label outcome elapsed => [(OutputMode.stageJson label outcome elapsed).compact]
  | _ => []

def Notice.ofEvent? (event : Event Lifecycle.signature) : Option Notice :=
  match event.request with
  | .stageEnded label outcome _ => some (.stage label (.of outcome))
  | _ => none

/-- The stages that were finished, in their order. -/
def finished (told : List (Event Lifecycle.signature)) : List Notice :=
  told.filterMap Notice.ofEvent?

theorem printAll_displays {lines : List String} {result : Unit}
    (run : (printAll lines).Yields trace result) : Displays lines trace := by
  induction lines generalizing trace with
  | nil =>
      obtain ⟨rfl, _⟩ := run
      exact ⟨rfl, rfl⟩
  | cons line rest ih =>
      obtain ⟨_, later, rfl, run⟩ := run
      have first : Displays [line] [⟨.print line, ()⟩] := ⟨rfl, rfl⟩
      exact first.append (ih run)

theorem answer_displays {request : Lifecycle.Request} {reply : Lifecycle.Answer request}
    (run : (connection.answer (report .json) request).Yields trace reply) :
    Displays (stageLines ⟨request, reply⟩) trace := by
  have long (call : AgentClient.LongCall) : Silent (call.program connection.agent) :=
    call.program_silent
  have short (call : AgentClient.ShortCall) : Silent (call.program connection.agent) :=
    call.program_silent
  cases request with
  | stageBegun label => exact printAll_displays run
  | stageEnded label outcome elapsed => exact printAll_displays run
  | store request => exact (FileStore.answer_silent request).displays run
  | hasVm cid => exact CloudClient.hasVm_silent.displays run
  | delete resource cid => exact CloudClient.delete_silent.displays run
  | ping limit =>
      refine ((short (.pingWithin limit)).bind fun reply => ?_).displays run
      rcases reply with _ | error | text <;> exact .done _
  | runScript name parameters => exact (long (.runScript name parameters)).displays run
  | drain reason => exact (long (.drain reason)).displays run
  | stop => exact (long .stop).displays run
  | start => exact (long .start).displays run
  | getState => exact (short .getState).displays run
  | listDisk => exact (short .listDisk).displays run
  | unmountDisk cid => exact (long (.unmountDisk cid)).displays run
  | now => exact (Silent.ask id).displays run
  | sleep time => exact (Silent.ask id).displays run

theorem displays_of_expands (expands : Expands (connection.answer (report .json)) told trace) :
    Displays (told.flatMap stageLines) trace := by
  induction told generalizing trace with
  | nil =>
      obtain rfl : trace = [] := expands
      exact ⟨rfl, rfl⟩
  | cons event told ih =>
      obtain ⟨here, rest, rfl, answered, later⟩ := expands
      rw [List.flatMap_cons]
      exact (answer_displays answered).append (ih later)

theorem tells_finished : Notice.Tells (told.flatMap stageLines) (finished told) := by
  induction told with
  | nil => exact .nil
  | cons event told ih =>
      obtain ⟨request, answer⟩ := event
      cases request with
      | stageEnded label outcome elapsed =>
          exact (Notice.tells_stage label outcome elapsed).append ih
      | _ => exact ih

end Reports

/-! The course of a run. -/

/-- What comes of a command after its stages: what it prints and complains of, and its status. -/
structure Ending where
  printed : List Notice
  complained : List Notice
  status : Nat

def Ending.of : Except CommandError Notice → Ending
  | .ok notice => ⟨[notice], [], 0⟩
  | .error error => ⟨[], [.error error.message], 1⟩

/-- What is said of a document that was looked for. -/
def recordedNotice (found : Option Document) : Notice :=
  .status ((found.map Status.ofDocument).map fun status => status.toJson.readBack)

/-- A run of a command, with the run of its lifecycle operation and what the command comes to. The
operation is not reached if there is no configuration, provider or agent to work with; a look at
what is recorded is none. -/
inductive Invocation.Course (invocation : Invocation) : List (Event Host.signature) →
    List (Event Lifecycle.signature) → Except CommandError Notice → Prop
  | unready {trace : List (Event Host.signature)} {error : CommandError}
      (lifecycle : invocation.command ≠ .status)
      (stops : invocation.ready.run.Yields trace (.error error)) :
      Course invocation trace [] (.error error)
  | operated {operation : UpdatePolicy → Lifecycle.Settings → Lifecycle.Program String}
      {before during : List (Event Host.signature)} (after : List (Event Host.signature))
      {ready : Ready} {told : List (Event Lifecycle.signature)}
      {result : Except LifecycleError String}
      (named : invocation.command.operation? = some operation)
      (readied : invocation.ready.run.Yields before (.ok ready))
      (ran : (operation ready.loaded.config.update ready.connection.settings).run.Yields told
        result)
      (expands : Expands (ready.connection.answer (report .json)) told during) :
      Course invocation (before ++ during ++ after) told
        ((result.map Notice.success).mapError .lifecycle)
  | lost {trace : List (Event Host.signature)} {error : CommandError}
      (status : invocation.command = .status)
      (stops : invocation.find.run.Yields trace (.error error)) :
      Course invocation trace [] (.error error)
  | looked {before during : List (Event Host.signature)} (after : List (Event Host.signature))
      {loaded : LoadedConfig} {found : Except StateError (Option Document)}
      (status : invocation.command = .status)
      (finds : invocation.find.run.Yields before (.ok loaded))
      (reads : loaded.store.read.Yields during found) :
      Course invocation (before ++ during ++ after) []
        ((found.map recordedNotice).mapError fun error => .lifecycle (.state error))

section Runs

variable {trace : List (Event Host.signature)} {loaded : LoadedConfig} {connection : Connection}
  {result : Except CommandError Unit}

theorem printLines_displays {lines : List String}
    (run : (printLines lines).run.Yields trace result) :
    result = .ok () ∧ Displays lines trace := by
  obtain ⟨_, first, _, rfl, prints, rfl, rfl⟩ := Prog.yields_bind.1 run
  rw [List.append_nil]
  exact ⟨rfl, printAll_displays prints⟩

theorem succeed_displays {started : Duration} {message : String}
    (run : ((⟨loaded, .json⟩ : Context).succeed started message).run.Yields trace result) :
    result = .ok () ∧ ∃ elapsed,
      Displays [(eventJson "success" message (some elapsed)).compact] trace := by
  obtain ⟨(now : Duration), later, rfl, prints⟩ := run
  obtain ⟨rfl, displays⟩ := printLines_displays prints
  have silent : Displays [] [⟨.now, now⟩] := ⟨rfl, rfl⟩
  exact ⟨rfl, now - started, silent.append displays⟩

theorem operate_yields {α : Type} {context : Context} {outcome : Except CommandError α}
    {operation : Prog Lifecycle.signature (Except LifecycleError α)}
    (run : (context.operate connection operation).run.Yields trace outcome) :
    ∃ told result, operation.Yields told result ∧
      Expands (connection.answer (report context.mode)) told trace ∧
      outcome = result.mapError .lifecycle := by
  obtain ⟨result, first, _, rfl, interpreted, rfl, rfl⟩ := Prog.yields_bind.1 run
  obtain ⟨told, ran, expands⟩ := Prog.yields_interpret.1 interpreted
  rw [List.append_nil]
  exact ⟨told, result, ran, expands, rfl⟩

theorem status_yields (run : (⟨loaded, .json⟩ : Context).status.run.Yields trace result) :
    (∃ cause, loaded.store.read.Yields trace (.error cause) ∧
        result = .error (.lifecycle (.state cause))) ∨
      ∃ found during after, trace = during ++ after ∧ loaded.store.read.Yields during (.ok found) ∧
        result = .ok () ∧ ∃ lines, Displays lines after ∧
          Notice.Tells lines [recordedNotice found] := by
  rcases Prog.yields_exceptBind.1 run with
    ⟨error, rfl, fails⟩ | ⟨recorded, during, after, rfl, succeeds, closing⟩
  · obtain ⟨found, reading, _, rfl, reads, rfl, same⟩ := Prog.yields_bind.1 fails
    cases found with
    | ok document => cases same
    | error cause =>
        cases same
        rw [List.append_nil]
        exact .inl ⟨cause, reads, rfl⟩
  · obtain ⟨found, reading, _, rfl, reads, rfl, same⟩ := Prog.yields_bind.1 succeeds
    obtain ⟨rfl, shows⟩ := printLines_displays closing
    cases found with
    | error cause => cases same
    | ok document =>
        cases same
        rw [List.append_nil]
        exact .inr ⟨document, reading, after, rfl, reads, rfl, _, shows, Notice.tells_status _⟩

end Runs

namespace Invocation

variable {invocation : Invocation} {trace : List (Event Host.signature)}
  {outcome : Except CommandError Unit}

theorem find_silent : Silent invocation.find.run := by
  refine Silent.exceptBind ((Silent.ask id).bind fun _ => .done _) fun current => ?_
  unfold findIn
  cases invocation.config with
  | some path => exact Config.load_silent.bind fun _ => .done _
  | none => exact Config.discover_silent.bind fun _ => .done _

theorem ready_silent : Silent invocation.ready.run := by
  refine find_silent.exceptBind fun loaded => ?_
  refine Silent.exceptBind ((Silent.ask id).bind fun _ => .done _) fun started => ?_
  refine Silent.exceptBind (LoadedConfig.connect_silent.bind fun _ => .done _) fun connection => ?_
  exact .done _

/-- A run with its course, and with lines that tell of what happened in it. -/
structure Account (invocation : Invocation) (trace : List (Event Host.signature))
    (outcome : Except CommandError Unit) (told : List (Event Lifecycle.signature))
    (result : Except CommandError Notice) : Prop where
  course : invocation.Course trace told result
  outcome : outcome = result.map fun _ => ()
  lines : ∃ lines, Displays lines trace ∧
    Notice.Tells lines (finished told ++ (Ending.of result).printed)

theorem account_of_operation
    {operation : UpdatePolicy → Lifecycle.Settings → Lifecycle.Program String}
    (json : invocation.output = .json) (named : invocation.command.operation? = some operation)
    (run : invocation.act.run.Yields trace outcome) :
    ∃ told result, invocation.Account trace outcome told result := by
  have lifecycle : invocation.command ≠ .status := fun same => by
    simp [same, Command.operation?] at named
  rw [act_eq_ready json named] at run
  rcases Prog.yields_exceptBind.1 run with
    ⟨error, rfl, stops⟩ | ⟨ready, before, rest, rfl, readied, goesOn⟩
  · exact ⟨[], .error error, .unready lifecycle stops, rfl, [], ready_silent.displays stops, .nil⟩
  · have opening := ready_silent.displays readied
    rcases Prog.yields_exceptBind.1 goesOn with
      ⟨error, rfl, fails⟩ | ⟨message, during, after, rfl, succeeds, closing⟩
    · obtain ⟨told, result, ran, expands, same⟩ := operate_yields fails
      cases result with
      | ok message => cases same
      | error cause =>
          cases same
          have course := Course.operated [] named readied ran expands
          rw [List.append_nil] at course
          refine ⟨told, .error (.lifecycle cause), course, rfl, _,
            opening.append (displays_of_expands expands), ?_⟩
          simpa [Ending.of] using tells_finished
    · obtain ⟨told, result, ran, expands, same⟩ := operate_yields succeeds
      obtain ⟨rfl, elapsed, shows⟩ := succeed_displays closing
      cases result with
      | error cause => cases same
      | ok _ =>
          cases same
          have course := Course.operated after named readied ran expands
          rw [List.append_assoc] at course
          refine ⟨told, .ok (.success message), course, rfl, _,
            opening.append ((displays_of_expands expands).append shows), ?_⟩
          exact tells_finished.append (Notice.tells_success message (some elapsed))

theorem account_of_status (json : invocation.output = .json)
    (status : invocation.command = .status) (run : invocation.act.run.Yields trace outcome) :
    ∃ told result, invocation.Account trace outcome told result := by
  rw [act_eq_obey (by simp [status, Command.IsInit]), status, json] at run
  rcases Prog.yields_exceptBind.1 run with
    ⟨error, rfl, stops⟩ | ⟨loaded, before, rest, rfl, finds, goesOn⟩
  · exact ⟨[], .error error, .lost status stops, rfl, [], find_silent.displays stops, .nil⟩
  · have opening := find_silent.displays finds
    rcases status_yields goesOn with
      ⟨cause, reads, rfl⟩ | ⟨found, during, after, rfl, reads, rfl, lines, shows, tells⟩
    · have course := Course.looked [] status finds reads
      rw [List.append_nil] at course
      exact ⟨[], .error (.lifecycle (.state cause)), course, rfl, _,
        opening.append (FileStore.read_silent.displays reads), .nil⟩
    · have course := Course.looked after status finds reads
      rw [List.append_assoc] at course
      exact ⟨[], .ok (recordedNotice found), course, rfl, _,
        opening.append ((FileStore.read_silent.displays reads).append shows), tells⟩

theorem exists_account (json : invocation.output = .json)
    (deploys : ¬ invocation.command.IsInit) (run : invocation.act.run.Yields trace outcome) :
    ∃ told result, invocation.Account trace outcome told result := by
  cases named : invocation.command.operation? with
  | some operation => exact account_of_operation json named run
  | none =>
      refine account_of_status json ?_ run
      cases command : invocation.command <;> simp_all [Command.operation?, Command.IsInit]

end Invocation

/-- In the JSON mode, whatever is recorded and whatever the provider and the agent do: what is
printed reads as one notice for each stage that was finished, in their order and as each was
reported, and as one more if the command succeeds. If it fails, it complains once, and gives the
message of the error; only then is the status 1. -/
theorem event_stream_faithful {arguments : List String} {invocation : Invocation}
    {trace : List (Event Host.signature)} {status : Nat}
    (reads : Invocation.ofArguments arguments = .ok invocation) (json : invocation.output = .json)
    (deploys : ¬ invocation.command.IsInit) (runs : (run arguments).Yields trace status) :
    ∃ part told result, part <+: trace ∧ invocation.Course part told result ∧
      invocation.act.run.Yields part (result.map fun _ => ()) ∧
      Notice.ofStream? (streamed (printed trace)) =
        some (finished told ++ (Ending.of result).printed) ∧
      Notice.ofStream? (streamed (complained trace)) = some (Ending.of result).complained ∧
      status = (Ending.of result).status := by
  unfold run at runs
  rw [reads] at runs
  obtain ⟨outcome, part, closing, rfl, ran, ends⟩ := Prog.yields_bind.1 runs
  obtain ⟨told, result, course, rfl, lines, displays, tells⟩ :=
    Invocation.exists_account json deploys ran
  refine ⟨part, told, result, List.prefix_append .., course, ran, ?_⟩
  cases result with
  | ok notice =>
      obtain ⟨rfl, rfl⟩ := ends
      rw [List.append_nil, displays.printed, displays.complained]
      exact ⟨tells.stream, Notice.Tells.nil.stream, rfl⟩
  | error error =>
      obtain ⟨_, _, rfl, rfl, rfl⟩ := ends
      rw [Host.printed_append, Host.complained_append, displays.printed, displays.complained, json]
      refine ⟨?_, (Notice.tells_error error.message).stream, rfl⟩
      change Notice.ofStream? (streamed (_ ++ [])) = _
      rw [List.append_nil]
      exact tells.stream

/-- A deletion that finds no agent, and then deletes the VM, has a line for both and one for its end. -/
theorem deleted_vm_streamed :
    let arguments := ["delete", "--output", "json"]
    let invocation : Invocation := ⟨none, false, .json, .delete false⟩
    let ran := (run arguments).record (Machine.answer toString) machineWithVm
    (ran.value = 0 ∧ ran.state.executions.length = 2 ∧ (printed ran.trace).length = 3 ∧
      complained ran.trace = []) ∧
    ∃ part told result, part <+: ran.trace ∧ invocation.Course part told result ∧
      invocation.act.run.Yields part (result.map fun _ => ()) ∧
      Notice.ofStream? (streamed (printed ran.trace)) =
        some (finished told ++ (Ending.of result).printed) ∧
      Notice.ofStream? (streamed (complained ran.trace)) = some (Ending.of result).complained ∧
      ran.value = (Ending.of result).status :=
  ⟨by decide +kernel, event_stream_faithful rfl rfl id (Prog.yields_record _)⟩

end DeploymentLifecycle.Cli
