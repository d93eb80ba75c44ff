import DeploymentLifecycle.Agent.Client
import DeploymentLifecycle.Proofs.Perform

namespace DeploymentLifecycle

/-! What a client asks of an agent that gives one reply after the other, and how it waits until a
task has ended. -/

/-- The method that an error names, if it names one. -/
def AgentError.method? : AgentError → Option String
  | .invalidUrl .. | .connect .. => none
  | .http method _ | .status method .. | .timeout method _ | .exception method _
  | .protocol method _ => some method

namespace AgentClient

open Host.Exchange (Outcome)

/-- A call of a method that may start a task. -/
inductive LongCall where
  | runScript (name : String) (parameters : Json.Fields)
  | drain (reason : String)
  | stop
  | start
  | unmountDisk (cid : Cid .disk)

namespace LongCall

def method : LongCall → String
  | .runScript .. => "run_script"
  | .drain _ => "drain"
  | .stop => "stop"
  | .start => "start"
  | .unmountDisk _ => "unmount_disk"

def arguments : LongCall → List Json
  | .runScript name parameters => [.string name, .object parameters]
  | .drain reason => [.string reason, .object []]
  | .stop | .start => []
  | .unmountDisk cid => [.string cid.text]

def program (client : AgentClient) : LongCall → Host.Program (Except AgentError Unit)
  | .runScript name parameters => client.runScript name parameters
  | .drain reason => client.drain reason
  | .stop => client.stop
  | .start => client.start
  | .unmountDisk cid => client.unmountDisk cid

theorem program_eq {client : AgentClient} {call : LongCall} :
    call.program client = client.sendTask call.method call.arguments := by
  cases call <;> rfl

end LongCall

/-- What comes of a ping for which there is less time than for other requests. -/
def answerWithin (client : AgentClient) (limit : Duration) :
    Outcome → Option (Except AgentError String)
  | .silent => none
  | reply => some ((client.value "ping" limit reply).map pingText)

/-- A call of a method whose first answer is the last. -/
inductive ShortCall where
  | ping
  | pingWithin (limit : Duration)
  | getState
  | listDisk

namespace ShortCall

@[reducible]
def Answer : ShortCall → Type
  | .ping => Except AgentError String
  | .pingWithin _ => Option (Except AgentError String)
  | .getState => Except AgentError AgentState
  | .listDisk => Except AgentError (List (Cid .disk))

def method : ShortCall → String
  | .ping | .pingWithin _ => "ping"
  | .getState => "get_state"
  | .listDisk => "list_disk"

/-- How long the answer may take. -/
def limit (client : AgentClient) : ShortCall → Duration
  | .pingWithin limit =>
    if client.requestTimeout ≤ limit then client.requestTimeout else limit
  | _ => client.requestTimeout

def program (client : AgentClient) : (call : ShortCall) → Host.Program call.Answer
  | .ping => client.ping
  | .pingWithin limit => client.pingWithin limit
  | .getState => client.getState
  | .listDisk => client.listDisk

theorem program_eq (client : AgentClient) (call : ShortCall) : ∃ answer : Outcome → call.Answer,
    call.program client =
      client.exchange call.method [] (call.limit client) >>= fun reply => pure (answer reply) := by
  cases call with
  | ping => exact ⟨_, bind_assoc ..⟩
  | getState => exact ⟨_, bind_assoc ..⟩
  | listDisk => exact ⟨_, bind_assoc ..⟩
  | pingWithin limit =>
      by_cases long : client.requestTimeout ≤ limit
      · rw [ShortCall.limit, if_pos long, program, AgentClient.pingWithin, if_pos long]
        simp only [AgentClient.ping, send, bind_assoc]
        exact ⟨_, rfl⟩
      · rw [ShortCall.limit, if_neg long, program, AgentClient.pingWithin, if_neg long]
        refine ⟨client.answerWithin limit, ?_⟩
        change client.exchange "ping" [] limit >>= _ = client.exchange "ping" [] limit >>= _
        congr 1
        funext reply
        cases reply <;> rfl

end ShortCall

/-- The value in a reply, if it is one of success, can be read, and tells of no exception. -/
def value? : Outcome → Option Json
  | .answered status body =>
    if 200 ≤ status ∧ status ≤ 299 then
      (AgentWire.Response.ofSymbols? (Text.symbols body)).bind fun response =>
        if response.exception = none then some response.value else none
    else none
  | _ => none

/-- The reply says that a task is running. -/
def Running (reply : Outcome) (task : String) : Prop :=
  ∃ fields : Json.Fields, value? reply = some (.object fields) ∧
    fields.get? "state" = some (.string "running") ∧
    fields.get? "agent_task_id" = some (.string task)

/-- An agent that gives these replies, whatever it is asked. The state counts those that it gave. -/
inductive Gives (replies : Nat → Outcome) : Conduct Host.signature Nat
  | reply (message : Host.Exchange) (given : Nat) :
      Gives replies given ⟨.exchange message, replies given⟩ (given + 1)
  | pause (time : Duration) (given : Nat) : Gives replies given ⟨.sleep time, ()⟩ given

/-- What a program asks such an agent, and what it comes to. -/
def Converses {α : Type} (replies : Nat → Outcome) (program : Host.Program α) (given : Nat)
    (trace : List (Event Host.signature)) (result : α) (after : Nat) : Prop :=
  program.Yields trace result ∧ (Gives replies).Along given trace after

variable {client : AgentClient} {method : String} {arguments : List Json} {limit : Duration}
  {reply : Outcome} {value : Json} {task : String} {error : AgentError}
  {trace : List (Event Host.signature)} {replies : Nat → Outcome} {given after : Nat}

section Value

variable {status : Nat} {body : List UInt8}

theorem value_of_success (success : 200 ≤ status ∧ status ≤ 299) :
    client.value method limit (.answered status body) =
      match AgentWire.Response.ofSymbols? (Text.symbols body) with
      | some response => response.result method
      | none => .error (.protocol method AgentWire.jsonReason) := by
  rw [AgentClient.value, AgentClient.body, if_pos success]
  rfl

theorem value_of_failure (failure : ¬ (200 ≤ status ∧ status ≤ 299)) :
    client.value method limit (.answered status body) =
      .error (.status method status (Text.decodeLossy body)) := by
  rw [AgentClient.value, AgentClient.body, if_neg failure]
  rfl

theorem value_eq_ok : client.value method limit reply = .ok value ↔ value? reply = some value := by
  cases reply with
  | unreachable | broken | silent => exact ⟨nofun, nofun⟩
  | answered status body =>
      by_cases success : 200 ≤ status ∧ status ≤ 299
      · rw [value_of_success success, value?, if_pos success]
        rcases AgentWire.Response.ofSymbols? (Text.symbols body) with _ | ⟨held, _ | message⟩
        · exact ⟨nofun, nofun⟩
        · simp [AgentWire.Response.result]
        · exact ⟨nofun, nofun⟩
      · rw [value_of_failure success, value?, if_neg success]
        exact ⟨nofun, nofun⟩

theorem method?_of_value (failed : client.value method limit reply = .error error) :
    error.method? = none ∨ error.method? = some method := by
  cases reply with
  | unreachable cause =>
      cases failed
      exact .inl rfl
  | broken | silent =>
      cases failed
      exact .inr rfl
  | answered status body =>
      right
      by_cases success : 200 ≤ status ∧ status ≤ 299
      · rw [value_of_success success] at failed
        generalize AgentWire.Response.ofSymbols? (Text.symbols body) = response at failed
        rcases response with _ | ⟨held, _ | message⟩
        all_goals cases failed
        all_goals rfl
      · rw [value_of_failure success] at failed
        cases failed
        rfl

/-- What a call comes to if the reply is its last. -/
def verdict (client : AgentClient) (method : String) (reply : Outcome) : Except AgentError Unit :=
  (client.value method client.requestTimeout reply).map fun _ => ()

theorem verdict_eq_ok : client.verdict method reply = .ok () ↔ (value? reply).isSome := by
  have values (value) := @value_eq_ok client method client.requestTimeout reply value
  simp only [verdict, Option.isSome_iff_exists, ← values]
  cases client.value method client.requestTimeout reply <;> simp [Except.map]

theorem verdict_eq_error : client.verdict method reply = .error error ↔
    client.value method client.requestTimeout reply = .error error := by
  rw [verdict]
  cases client.value method client.requestTimeout reply <;> simp [Except.map]

theorem asString?_eq_some {text : String} : value.asString? = some text ↔ value = .string text := by
  cases value <;> simp [Json.asString?]

theorem asObject?_eq_some {fields : Json.Fields} :
    value.asObject? = some fields ↔ value = .object fields := by
  cases value <;> simp [Json.asObject?]

theorem runningTask?_eq_some :
    AgentWire.runningTask? value = some task ↔ ∃ fields : Json.Fields, value = .object fields ∧
      fields.get? "state" = some (.string "running") ∧
      fields.get? "agent_task_id" = some (.string task) := by
  simp only [AgentWire.runningTask?, Option.bind_eq_bind, Option.bind_eq_some_iff,
    asObject?_eq_some, asString?_eq_some]
  constructor
  · rintro ⟨fields, rfl, state, found, text, rfl, same⟩
    split at same
    · next running =>
      obtain ⟨id, named, text⟩ := Option.bind_eq_some_iff.1 same
      rw [asString?_eq_some] at text
      exact ⟨fields, rfl, running ▸ found, text ▸ named⟩
    · cases same
  · rintro ⟨fields, rfl, state, id⟩
    refine ⟨fields, rfl, _, state, _, rfl, ?_⟩
    rw [if_pos rfl, id]
    rfl

theorem running_iff :
    Running reply task ↔ (value? reply).bind AgentWire.runningTask? = some task := by
  simp only [Running, Option.bind_eq_some_iff, runningTask?_eq_some]
  constructor
  · rintro ⟨fields, found, running⟩
    exact ⟨_, found, fields, rfl, running⟩
  · rintro ⟨_, found, fields, rfl, running⟩
    exact ⟨fields, found, running⟩

theorem runningTask?_eq_none (ended : ∀ task, ¬ Running reply task)
    (found : value? reply = some value) : AgentWire.runningTask? value = none := by
  refine Option.eq_none_iff_forall_ne_some.2 fun task running => ended task ?_
  exact running_iff.2 (by rw [found]; exact running)

end Value

section Conversation

variable {α : Type} {result : α} {time : Duration}

def message (client : AgentClient) (method : String) (arguments : List Json) (limit : Duration) :
    Host.Exchange where
  address := client.endpoint.address
  path := client.endpoint.path
  authorization := client.endpoint.authorization
  body := AgentWire.request method arguments client.replyTo
  limit := limit

theorem converses_pure {value : α} :
    Converses replies (pure value) given trace result after ↔
      trace = [] ∧ result = value ∧ after = given := by
  constructor
  · rintro ⟨⟨rfl, rfl⟩, rfl⟩
    exact ⟨rfl, rfl, rfl⟩
  · rintro ⟨rfl, rfl, rfl⟩
    exact ⟨⟨rfl, rfl⟩, rfl⟩

theorem converses_exchange {next : Outcome → Host.Program α} :
    Converses replies (client.exchange method arguments limit >>= next) given trace result after ↔
      ∃ rest, trace = ⟨.exchange (client.message method arguments limit), replies given⟩ :: rest ∧
        Converses replies (next (replies given)) (given + 1) rest result after := by
  constructor
  · rintro ⟨⟨_, rest, rfl, run⟩, _, step, along⟩
    cases step
    exact ⟨rest, rfl, run, along⟩
  · rintro ⟨rest, rfl, run, along⟩
    exact ⟨⟨_, rest, rfl, run⟩, _, .reply _ _, along⟩

theorem converses_sleep {next : Unit → Host.Program α} :
    Converses replies (Host.ask (.sleep time) >>= next) given trace result after ↔
      ∃ rest, trace = ⟨.sleep time, ()⟩ :: rest ∧
        Converses replies (next ()) given rest result after := by
  constructor
  · rintro ⟨⟨_, rest, rfl, run⟩, _, step, along⟩
    cases step
    exact ⟨rest, rfl, run, along⟩
  · rintro ⟨rest, rfl, run, along⟩
    exact ⟨⟨_, rest, rfl, run⟩, _, .pause _ _, along⟩

theorem converses_map {β : Type} {program : Host.Program α} {convert : α → β} {result : β} :
    Converses replies (program >>= fun value => pure (convert value)) given trace result after ↔
      ∃ value, result = convert value ∧ Converses replies program given trace value after := by
  simp only [Converses, Prog.yields_bind, Prog.yields_pure]
  constructor
  · rintro ⟨⟨value, first, _, rfl, run, rfl, rfl⟩, along⟩
    exact ⟨value, rfl, by simpa using run, by simpa using along⟩
  · rintro ⟨value, rfl, run, along⟩
    exact ⟨⟨value, trace, [], by simp, run, rfl, rfl⟩, along⟩

end Conversation

section Tasks

variable {result : Except AgentError Json} {tasks : Nat → String}

/-- Waiting for the end of what a reply says. -/
def follow (client : AgentClient) (rounds : Nat) :
    Except AgentError Json → Host.Program (Except AgentError Json)
  | .ok value => client.awaitTask rounds value
  | .error error => return .error error

/-- What comes after a reply that tells of a running task: a pause, and asking after that task. -/
def asking (client : AgentClient) (replies : Nat → Outcome) (tasks : Nat → String) (turn : Nat) :
    List (Event Host.signature) :=
  [⟨.sleep client.taskPollInterval, ()⟩,
    ⟨.exchange (client.message "get_task" [.string (tasks turn)] client.requestTimeout),
      replies (turn + 1)⟩]

/-- The method to which the last reply is the answer. -/
def lastMethod (method : String) : Nat → String
  | 0 => method
  | _ + 1 => "get_task"

theorem sendTask_eq : client.sendTask method arguments = do
    let outcome ← client.exchange method arguments client.requestTimeout
    let ended ← client.follow client.taskRounds
      (client.value method client.requestTimeout outcome)
    return ended.map fun _ => () := by
  simp only [sendTask, send, bind_assoc, pure_bind]
  congr 1
  funext outcome
  cases client.value method client.requestTimeout outcome <;> rfl

theorem awaitTask_idle {rounds : Nat} (ended : AgentWire.runningTask? value = none) :
    client.awaitTask rounds value = pure (.ok value) := by
  cases rounds with
  | zero => rfl
  | succ rounds => rw [awaitTask, ended]

theorem follow_idle {rounds : Nat} (ended : ∀ task, ¬ Running reply task) :
    client.follow rounds (client.value method limit reply) =
      pure (client.value method limit reply) := by
  cases found : client.value method limit reply with
  | error error => rfl
  | ok value => exact awaitTask_idle (runningTask?_eq_none ended (value_eq_ok.1 found))

theorem follow_running {rounds : Nat} (running : Running reply task) :
    client.follow (rounds + 1) (client.value method limit reply) = (do
      Host.ask (.sleep client.taskPollInterval)
      let outcome ← client.exchange "get_task" [.string task] client.requestTimeout
      client.follow rounds (client.value "get_task" client.requestTimeout outcome)) := by
  obtain ⟨value, found, runs⟩ := Option.bind_eq_some_iff.1 (running_iff.1 running)
  rw [value_eq_ok.2 found, follow, awaitTask, runs]
  simp only [send, bind_assoc, pure_bind]
  rfl

theorem converses_follow {turns rounds : Nat} (enough : turns ≤ rounds)
    (running : ∀ turn < turns, Running (replies (given + turn)) (tasks (given + turn)))
    (ended : ∀ task, ¬ Running (replies (given + turns)) task) :
    Converses replies
        (client.follow rounds (client.value method client.requestTimeout (replies given)))
        (given + 1) trace result after ↔
      trace = (List.range' given turns).flatMap (client.asking replies tasks) ∧
        result = client.value (lastMethod method turns) client.requestTimeout
          (replies (given + turns)) ∧
        after = given + 1 + turns := by
  induction turns generalizing given rounds method trace with
  | zero =>
      rw [follow_idle (by simpa using ended), converses_pure]
      rfl
  | succ turns ih =>
      obtain ⟨rounds, rfl⟩ := Nat.exists_eq_add_one_of_ne_zero (Nat.ne_zero_of_lt enough)
      have first : Running (replies given) (tasks given) := running 0 (Nat.succ_pos turns)
      have later : ∀ turn < turns,
          Running (replies (given + 1 + turn)) (tasks (given + 1 + turn)) := by
        intro turn within
        have := running (turn + 1) (Nat.succ_lt_succ within)
        rwa [Nat.add_right_comm]
      have last : ∀ task, ¬ Running (replies (given + 1 + turns)) task := by
        rwa [Nat.add_right_comm]
      rw [follow_running first, converses_sleep]
      simp only [converses_exchange, ih (Nat.le_of_succ_le_succ enough) later last]
      have method : lastMethod "get_task" turns = lastMethod method (turns + 1) := by
        cases turns <;> rfl
      have nth : given + 1 + turns = given + (turns + 1) := by omega
      have count : given + 1 + 1 + turns = given + 1 + (turns + 1) := by omega
      rw [method, nth, count]
      constructor
      · rintro ⟨_, rfl, _, rfl, rfl, same, counted⟩
        exact ⟨rfl, same, counted⟩
      · rintro ⟨rfl, same, counted⟩
        exact ⟨_, rfl, _, rfl, rfl, same, counted⟩

theorem converses_sendTask {turns : Nat} {done : Except AgentError Unit}
    (enough : turns ≤ client.taskRounds)
    (running : ∀ turn < turns, Running (replies turn) (tasks turn))
    (ended : ∀ task, ¬ Running (replies turns) task) :
    Converses replies (client.sendTask method arguments) 0 trace done after ↔
      trace = ⟨.exchange (client.message method arguments client.requestTimeout), replies 0⟩ ::
          (List.range turns).flatMap (client.asking replies tasks) ∧
        done = client.verdict (lastMethod method turns) (replies turns) ∧ after = turns + 1 := by
  have runs : ∀ turn < turns, Running (replies (0 + turn)) (tasks (0 + turn)) := by
    simpa using running
  have ends : ∀ task, ¬ Running (replies (0 + turns)) task := by simpa using ended
  rw [sendTask_eq, converses_exchange]
  simp only [converses_map, converses_follow enough runs ends, Nat.zero_add,
    List.range_eq_range', Nat.add_comm 1]
  constructor
  · rintro ⟨_, rfl, _, rfl, rfl, rfl, counted⟩
    exact ⟨rfl, rfl, counted⟩
  · rintro ⟨rfl, rfl, counted⟩
    exact ⟨_, rfl, _, rfl, rfl, rfl, counted⟩

end Tasks

theorem converses_short (call : ShortCall) : ∃ answer : call.Answer, ∀ trace result after,
    Converses replies (call.program client) given trace result after ↔
      trace = [⟨.exchange (client.message call.method [] (call.limit client)), replies given⟩] ∧
        result = answer ∧ after = given + 1 := by
  obtain ⟨answer, same⟩ := call.program_eq client
  refine ⟨answer (replies given), fun trace result after => ?_⟩
  rw [same, converses_exchange]
  simp only [converses_pure]
  constructor
  · rintro ⟨_, rfl, rfl, rfl, rfl⟩
    exact ⟨rfl, rfl, rfl⟩
  · rintro ⟨rfl, rfl, rfl⟩
    exact ⟨[], rfl, rfl, rfl, rfl⟩

/-- A call that may start a task asks after the task that it was last told of, until it is told of
none that is running, and comes to what the last reply says. Other calls make one request. -/
theorem tasks_waited_out :
    (∀ (call : LongCall) (tasks : Nat → String) (turns : Nat), turns ≤ client.taskRounds →
      (∀ turn < turns, Running (replies turn) (tasks turn)) →
      (∀ task, ¬ Running (replies turns) task) →
      (∀ trace result after, Converses replies (call.program client) 0 trace result after ↔
        trace = ⟨.exchange (client.message call.method call.arguments client.requestTimeout),
            replies 0⟩ :: (List.range turns).flatMap (client.asking replies tasks) ∧
          result = client.verdict (lastMethod call.method turns) (replies turns) ∧
          after = turns + 1) ∧
      (client.verdict (lastMethod call.method turns) (replies turns) = .ok () ↔
        (value? (replies turns)).isSome) ∧
      ∀ error, client.verdict (lastMethod call.method turns) (replies turns) = .error error →
        client.value (lastMethod call.method turns) client.requestTimeout (replies turns) =
            .error error ∧
          (error.method? = none ∨ error.method? = some (lastMethod call.method turns))) ∧
    ∀ call : ShortCall, ∃ answer : call.Answer, ∀ trace result after,
      Converses replies (call.program client) 0 trace result after ↔
        trace = [⟨.exchange (client.message call.method [] (call.limit client)), replies 0⟩] ∧
          result = answer ∧ after = 1 := by
  refine ⟨?_, fun call => converses_short call⟩
  intro call tasks turns enough running ended
  refine ⟨fun trace result after => ?_, verdict_eq_ok, fun error failed => ?_⟩
  · rw [LongCall.program_eq]
    exact converses_sendTask enough running ended
  · have told := verdict_eq_error.1 failed
    exact ⟨told, method?_of_value told⟩

/-- A reply tells of another task than the one that was asked after. -/
theorem other_task_waited_out : ∃ (client : AgentClient) (replies : Nat → Outcome),
    Running (replies 0) "t-1" ∧ Running (replies 1) "t-2" ∧
    Converses replies client.stop 0
      [⟨.exchange (client.message "stop" [] client.requestTimeout), replies 0⟩,
        ⟨.sleep client.taskPollInterval, ()⟩,
        ⟨.exchange (client.message "get_task" [.string "t-1"] client.requestTimeout), replies 1⟩,
        ⟨.sleep client.taskPollInterval, ()⟩,
        ⟨.exchange (client.message "get_task" [.string "t-2"] client.requestTimeout), replies 2⟩]
      (.ok ()) 3 := by
  let client : AgentClient := {
    endpoint := { host := "10.0.0.5", port := 6868, path := "/agent", authorization := none }
    replyTo := "bosun-1"
    requestTimeout := .zero
    taskPollInterval := .zero }
  let body (text : String) : Outcome := .answered 200 text.toUTF8.toList
  let replies : Nat → Outcome
    | 0 => body "\x7b\"value\":\x7b\"state\":\"running\",\"agent_task_id\":\"t-1\"\x7d\x7d"
    | 1 => body "\x7b\"value\":\x7b\"state\":\"running\",\"agent_task_id\":\"t-2\"\x7d\x7d"
    | _ => body "\x7b\"value\":\"stopped\"\x7d"
  let tasks : Nat → String
    | 0 => "t-1"
    | _ => "t-2"
  have first : Running (replies 0) "t-1" := running_iff.2 (by decide +kernel)
  have second : Running (replies 1) "t-2" := running_iff.2 (by decide +kernel)
  have running : ∀ turn < 2, Running (replies turn) (tasks turn) := by
    intro turn within
    match turn with
    | 0 => exact first
    | 1 => exact second
  have idle : (value? (replies 2)).bind AgentWire.runningTask? = none := by decide +kernel
  have ended : ∀ task, ¬ Running (replies 2) task := by
    intro task running
    rw [running_iff, idle] at running
    cases running
  have told : (value? (replies 2)).isSome := by decide +kernel
  obtain ⟨talk, fine, _⟩ := (@tasks_waited_out client replies).1 .stop tasks 2 (by decide)
    running ended
  exact ⟨client, replies, first, second, (talk _ _ _).2 ⟨rfl, (fine.2 told).symm, rfl⟩⟩

end AgentClient

end DeploymentLifecycle
