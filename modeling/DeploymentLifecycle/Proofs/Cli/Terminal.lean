import DeploymentLifecycle.Cli.Commands
import DeploymentLifecycle.Proofs.Agent.Tasks
import DeploymentLifecycle.Proofs.Expansion
import DeploymentLifecycle.Proofs.State.Replacement

namespace DeploymentLifecycle

/-! What a run leaves on the terminal. Stages are reported there, and so is the end of a command;
everything else is done in silence. -/

namespace Host

section Lines

variable {event : Event signature} {trace first rest : List (Event signature)}

def line? (event : Event signature) : Option String :=
  match event.request with
  | .print line => some line
  | _ => none

def complaint? (event : Event signature) : Option String :=
  match event.request with
  | .complain line => some line
  | _ => none

def printed (trace : List (Event signature)) : List String := trace.filterMap line?

def complained (trace : List (Event signature)) : List String := trace.filterMap complaint?

@[simp]
theorem printed_append : printed (first ++ rest) = printed first ++ printed rest :=
  List.filterMap_append

@[simp]
theorem complained_append : complained (first ++ rest) = complained first ++ complained rest :=
  List.filterMap_append

def Request.IsShown : Request → Prop
  | .print _ | .complain _ => True
  | _ => False

theorem unseen_of_not_shown (hidden : ¬ Request.IsShown event.request) :
    line? event = none ∧ complaint? event = none := by
  obtain ⟨request, answer⟩ := event
  cases request <;> first | exact ⟨rfl, rfl⟩ | exact (hidden trivial).elim

/-- The lines that are printed, in a trace without complaints. -/
structure Displays (lines : List String) (trace : List (Event signature)) : Prop where
  printed : printed trace = lines
  complained : complained trace = []

theorem Displays.append {before after : List String} (displays : Displays before first)
    (goesOn : Displays after rest) : Displays (before ++ after) (first ++ rest) where
  printed := by rw [printed_append, displays.printed, goesOn.printed]
  complained := by rw [complained_append, displays.complained, goesOn.complained]; rfl

end Lines

/-! What is done in silence. -/

/-- Whatever the answers are, nothing is shown. -/
structure Silent {α : Type} (program : Program α) : Prop where
  asks : program.Asks fun request => ¬ Request.IsShown request

namespace Silent

variable {α β : Type}

theorem displays {program : Program α} {trace : List (Event signature)} {result : α}
    (silent : Silent program) (run : program.Yields trace result) : Displays [] trace where
  printed := List.filterMap_eq_nil_iff.2 fun event member =>
    (unseen_of_not_shown (silent.asks.trace run event member)).1
  complained := List.filterMap_eq_nil_iff.2 fun event member =>
    (unseen_of_not_shown (silent.asks.trace run event member)).2

theorem done (value : α) : Silent (pure value) := ⟨trivial⟩

theorem bind {program : Program α} {next : α → Program β} (first : Silent program)
    (rest : ∀ value, Silent (next value)) : Silent (program >>= next) :=
  ⟨first.asks.bind fun value => (rest value).asks⟩

theorem exceptBind {ε : Type} {program : ExceptT ε (Prog signature) α}
    {next : α → ExceptT ε (Prog signature) β} (first : Silent program.run)
    (rest : ∀ value, Silent (next value).run) : Silent (program >>= next).run :=
  ⟨first.asks.exceptBind fun value => (rest value).asks⟩

theorem ask {request : Request} (hidden : ¬ request.IsShown) : Silent (Host.ask request) :=
  ⟨Prog.asks_request.2 hidden⟩

end Silent

end Host

open Host (Silent)

theorem Config.load_silent {path : Path} : Silent (load path) := by
  refine (Silent.ask id).bind fun content => ?_
  cases content with
  | ok bytes => exact .done _
  | error cause => exact .done _

theorem Config.discover_silent {directory : Path} : Silent (discover directory) := by
  unfold discover
  induction candidates directory with
  | nil => exact .done _
  | cons candidate rest ih =>
      refine (Silent.ask id).bind fun present => ?_
      cases present with
      | true => exact load_silent
      | false => exact ih

namespace LoadedConfig

variable {loaded : LoadedConfig}

theorem cloudClient_silent : Silent loaded.cloudClient := by
  unfold cloudClient
  dsimp only
  split
  · refine (Silent.ask id).bind fun present => ?_
    cases present with
    | true => exact .done _
    | false => exact .done _
  · exact .done _

theorem resolve_silent {setting : Setting} : Silent (resolve setting) := by
  cases setting with
  | literal text => exact .done _
  | «variable» name default => exact (Silent.ask id).bind fun _ => .done _

theorem agentClient_silent : Silent loaded.agentClient := by
  refine resolve_silent.bind fun url => ?_
  cases url with
  | error name => exact .done _
  | ok url =>
      dsimp only
      cases Endpoint.ofUrl url with
      | error e => exact .done _
      | ok endpoint => exact (Silent.ask id).bind fun _ => .done _

theorem connect_silent : Silent loaded.connect := by
  refine cloudClient_silent.bind fun cloud => ?_
  cases cloud with
  | error e => exact .done _
  | ok cloud =>
      refine agentClient_silent.bind fun agent => ?_
      cases agent with
      | error e => exact .done _
      | ok agent => exact .done _

end LoadedConfig

namespace FileStore

variable {store : FileStore} {document : Document}

theorem read_silent : Silent store.read := by
  rw [read_eq]
  exact (Silent.ask id).bind fun _ => .done _

theorem writing_silent {step : Host.Program (Except IoError Unit)} (silent : Silent step) :
    Silent (store.writing step).run := by
  refine silent.bind fun written => ?_
  cases written with
  | ok _ => exact .done _
  | error cause => exact .done _

theorem save_silent : Silent (store.save document) := by
  have prepared : Silent store.prepare.run := by
    unfold prepare
    split
    · split
      · exact .done _
      · exact writing_silent (.ask id)
    · exact .done _
  rw [save_eq]
  exact prepared.exceptBind fun _ => (writing_silent (.ask id)).exceptBind fun _ =>
    writing_silent (.ask id)

theorem load_silent : Silent store.load := by
  refine read_silent.bind fun found => ?_
  match found with
  | .error _ | .ok (some _) => exact .done _
  | .ok none =>
    refine Silent.bind ?_ fun document => save_silent.bind fun saved => ?_
    · exact (Silent.ask id).bind fun _ => (Silent.ask id).bind fun _ => .done _
    · cases saved with
      | ok _ => exact .done _
      | error e => exact .done _

theorem answer_silent (request : Store.Request) : Silent (store.answer request) := by
  cases request with
  | load => exact load_silent
  | read => exact read_silent
  | save document => exact save_silent
  | freshId => exact .ask id

end FileStore

namespace CloudClient

variable {client : CloudClient}

theorem call_silent {method cid : String} : Silent (client.call method cid) :=
  (Silent.ask id).bind fun _ => .done _

theorem hasVm_silent {cid : Cid .vm} : Silent (client.hasVm cid) :=
  call_silent.bind fun _ => .done _

theorem delete_silent {resource : Resource} {cid : Cid resource} :
    Silent (client.delete resource cid) :=
  call_silent.bind fun _ => .done _

end CloudClient

namespace AgentClient

variable {client : AgentClient} {method : String} {arguments : List Json}

theorem send_silent : Silent (client.send method arguments) :=
  (Silent.ask id).bind fun _ => .done _

theorem awaitTask_silent (rounds : Nat) (value : Json) :
    Silent (client.awaitTask rounds value) := by
  induction rounds generalizing value with
  | zero => exact .done _
  | succ rounds ih =>
      unfold awaitTask
      split
      · exact .done _
      · refine (Silent.ask id).bind fun _ => send_silent.bind fun answer => ?_
        cases answer with
        | ok value => exact ih value
        | error error => exact .done _

theorem LongCall.program_silent (call : LongCall) : Silent (call.program client) := by
  rw [LongCall.program_eq]
  refine send_silent.bind fun answer => ?_
  cases answer with
  | error error => exact .done _
  | ok value => exact (awaitTask_silent _ value).bind fun _ => .done _

theorem ShortCall.program_silent (call : ShortCall) : Silent (call.program client) := by
  obtain ⟨answer, same⟩ := call.program_eq client
  rw [same]
  exact (Silent.ask id).bind fun _ => .done _

end AgentClient

end DeploymentLifecycle
