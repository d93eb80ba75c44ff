import DeploymentLifecycle.Cli.Commands
import DeploymentLifecycle.Machine
import DeploymentLifecycle.Proofs.Cli.Reading
import DeploymentLifecycle.Proofs.Elision

namespace DeploymentLifecycle.Cli

/-! The output mode decides what is printed and nothing else. -/

open Prog (Mirrors MirrorsExcept mirrors_self mirrors_pure mirrorsExcept_pure mirrorsExcept_lift)

/-- A line on the terminal is answered with nothing. -/
def printed? : (request : Host.Request) → Option (Host.Answer request)
  | .print _ => some ()
  | .complain _ => some ()
  | _ => none

variable {α β : Type}

/-- But for what is printed, the one action does what the other does, and comes to the image of what
that comes to. -/
abbrev Shows (image : α → β) (action : Action α) (other : Action β) : Prop :=
  MirrorsExcept printed? id image action other

section Printing

theorem shows_self {action : Action α} : Shows id action action := by
  have same : (fun result : Except CommandError α => (result.map id).mapError id) = id := by
    funext result
    cases result <;> rfl
  unfold Shows MirrorsExcept
  rw [same]
  exact mirrors_self

theorem elide_printAll {lines : List String} : (printAll lines).elide printed? = pure () := by
  induction lines with
  | nil => rfl
  | cons line rest ih => exact ih

theorem mirrors_printAll {first second : List String} :
    Mirrors printed? id (printAll first) (printAll second) := by
  unfold Mirrors
  rw [elide_printAll, elide_printAll]
  rfl

theorem shows_printLines {first second : List String} :
    Shows id (printLines first) (printLines second) :=
  mirrorsExcept_lift mirrors_printAll

theorem mirrors_answer {connection : Connection} {first second : OutputMode}
    (request : Lifecycle.Request) :
    Mirrors printed? id (connection.answer (report first) request)
      (connection.answer (report second) request) := by
  cases request with
  | stageBegun label => exact mirrors_printAll
  | stageEnded label outcome elapsed => exact mirrors_printAll
  | _ => exact mirrors_self

end Printing

namespace Context

variable {context : Context} (mode : OutputMode)

def shown (context : Context) : Context := { context with mode }

theorem load_shows {invocation : Invocation} {current : Path} :
    Shows (shown mode) (load invocation current)
      (load { invocation with output := mode } current) :=
  shows_self.bind fun _ => mirrorsExcept_pure

theorem operate_shows {connection : Connection}
    {operation : Prog Lifecycle.signature (Except LifecycleError α)} :
    Shows id (context.operate connection operation)
      ((context.shown mode).operate connection operation) := by
  refine Mirrors.bind (Mirrors.interpret mirrors_answer) fun result => ?_
  cases result <;> rfl

theorem succeed_shows {started : Duration} {message : String} :
    Shows id (context.succeed started message) ((context.shown mode).succeed started message) :=
  shows_self.bind fun _ => shows_printLines

theorem withDeployment_shows {verb doing done : String}
    {operation : Lifecycle.Settings → Lifecycle.Deployment →
      Prog Lifecycle.signature (Except LifecycleError Unit)} :
    Shows id (context.withDeployment verb doing done operation)
      ((context.shown mode).withDeployment verb doing done operation) := by
  refine shows_self.bind fun started => shows_self.bind fun connection => ?_
  refine (operate_shows mode).bind fun found => ?_
  cases found with
  | none => exact succeed_shows mode
  | some deployment =>
      refine shows_printLines.bind fun _ => ?_
      exact (operate_shows mode).bind fun _ => succeed_shows mode

theorem cleanup_shows : Shows id context.cleanup (context.shown mode).cleanup := by
  refine shows_self.bind fun started => shows_printLines.bind fun _ => ?_
  refine shows_self.bind fun connection => ?_
  exact (operate_shows mode).bind fun _ => succeed_shows mode

theorem status_shows : Shows id context.status (context.shown mode).status :=
  shows_self.bind fun _ => shows_printLines

end Context

theorem Invocation.act_shows {invocation : Invocation} (mode : OutputMode) :
    Shows id invocation.act ({ invocation with output := mode } : Invocation).act := by
  obtain ⟨config, verbose, output, command⟩ := invocation
  refine shows_self.bind fun current => ?_
  cases command with
  | init deployment cpi force => exact shows_self.bind fun _ => shows_printLines
  | delete skipDrain =>
      exact (Context.load_shows mode).bind fun _ => Context.withDeployment_shows mode
  | stop skipDrain =>
      exact (Context.load_shows mode).bind fun _ => Context.withDeployment_shows mode
  | start => exact (Context.load_shows mode).bind fun _ => Context.withDeployment_shows mode
  | cleanup => exact (Context.load_shows mode).bind fun _ => Context.cleanup_shows mode
  | status => exact (Context.load_shows mode).bind fun _ => Context.status_shows mode

theorem run_mirrors {first second : List String} (varied : Varied first second) :
    Mirrors printed? id (run first) (run second) := by
  unfold run
  generalize Invocation.ofArguments first = one, Invocation.ofArguments second = other,
    ofArguments_agree varied = agree
  cases agree with
  | refused refusal => exact mirrors_self
  | read same =>
      obtain ⟨mode, rfl⟩ := same
      refine Mirrors.bind (Invocation.act_shows mode) fun result => ?_
      cases result with
      | ok _ => exact mirrors_pure
      | error error => exact .known rfl rfl mirrors_pure

/-- What the machine was asked for, but for what was printed. -/
def unprinted (trace : List (Event Host.signature)) : List (Event Host.signature) :=
  trace.filter fun event => (printed? event.request).isNone

/-- Runs of command lines that differ only in the output modes that they name have the same exit
status. The machine is asked for the same, in the same order, and left in the same state: its files,
the programs that it runs and whomever it exchanges messages with. Only the terminals differ. -/
theorem modes_only_print {σ ρ τ : Type}
    (machine : (request : Host.Request) → StateM σ (Host.Answer request))
    (terminal : Host.Request → ρ → ρ) (terminalOther : Host.Request → τ → τ)
    {first second : List String} (varied : Varied first second) (state : σ) (shown : ρ)
    (shownOther : τ) :
    let one := (run first).record (Prog.attended printed? machine terminal) (state, shown)
    let other := (run second).record (Prog.attended printed? machine terminalOther)
      (state, shownOther)
    other.value = one.value ∧ unprinted other.trace = unprinted one.trace ∧
      other.state.1 = one.state.1 := by
  intro one other
  have same : other.unheard printed? = (one.unheard printed?).map id :=
    (run_mirrors varied).unheard terminalOther state shown shownOther
  exact ⟨congrArg (·.value) same, congrArg (·.trace) same, congrArg (·.state) same⟩

/-- A machine with a configuration and a document that records a VM. The provider still has it, and
deletes it when asked. Its agent cannot be reached. -/
def machineWithVm : Machine :=
  let configuration := "cpi:\n command: /c\nagent:\n url: http://h\n ping_timeout: 0"
  let document := "\x7b\"current_vm_cid\": \"v\"\x7d"
  { files := .directory [("c", .program), ("bosun.yml", .file (Text.encode configuration)),
      ("bosun-state.json", .file (Text.encode document))]
    performances := [{ output := Text.encode "\x7b\"result\": true\x7d" },
      { output := Text.encode "\x7b\x7d" }] }

/-- The VM that is recorded on such a machine. -/
def recordedVm? (machine : Machine) : Option (Cid .vm) :=
  let store : FileStore := ⟨⟨"/bosun-state.json"⟩⟩
  (store.read.perform (Machine.answer toString) machine).1.toOption.join.bind (·.currentVm)

theorem quiet_deletion_deletes :
    Varied ["delete", "--output", "normal"] ["delete", "--output", "quiet"] ∧
    let answer := Machine.answer toString
    let one := (run ["delete", "--output", "normal"]).record
      (Prog.attended printed? answer fun request lines => lines ++ [request]) (machineWithVm, [])
    let other := (run ["delete", "--output", "quiet"]).record
      (Prog.attended printed? answer fun _ => id) (machineWithVm, ())
    (recordedVm? machineWithVm = some ⟨"v"⟩ ∧ one.value = 0 ∧ one.state.2.length = 6 ∧
      one.state.1.executions.length = 2 ∧ recordedVm? one.state.1 = none) ∧
    other.value = one.value ∧ unprinted other.trace = unprinted one.trace ∧
      other.state.1 = one.state.1 := by
  have varied : Varied ["delete", "--output", "normal"] ["delete", "--output", "quiet"] :=
    .same "delete" (.apart .normal .quiet .nil)
  refine ⟨varied, by decide +kernel, ?_⟩
  exact modes_only_print (Machine.answer toString) _ _ varied _ _ _

end DeploymentLifecycle.Cli
