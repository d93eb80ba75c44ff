import DeploymentLifecycle.Agent.Url
import DeploymentLifecycle.Agent.Wire
import DeploymentLifecycle.Host

namespace DeploymentLifecycle

/-! Calls of an agent over HTTP. A method that takes long answers with a task, which is asked after
until it has ended. -/

/-- `taskRounds` bounds how often a task is asked after; the standard is more than any task needs. -/
structure AgentClient where
  endpoint : Endpoint
  replyTo : String
  requestTimeout : Duration
  taskPollInterval : Duration
  taskRounds : Nat := 18_446_744_073_709_551_616

namespace AgentClient

open Host (ask)

/-- What an exchange came to: the body of an answer with a status of success, or the error. -/
def body (client : AgentClient) (method : String) (limit : Duration) :
    Host.Exchange.Outcome → Except AgentError (List UInt8)
  | .unreachable cause => .error (.connect client.endpoint.address cause)
  | .broken reason => .error (.http method reason)
  | .silent => .error (.timeout method limit)
  | .answered status body =>
    if 200 ≤ status ∧ status ≤ 299 then .ok body
    else .error (.status method status (Text.decodeLossy body))

def exchange (client : AgentClient) (method : String) (arguments : List Json) (limit : Duration) :
    Host.Program Host.Exchange.Outcome :=
  ask (.exchange {
    address := client.endpoint.address
    path := client.endpoint.path
    authorization := client.endpoint.authorization
    body := AgentWire.request method arguments client.replyTo
    limit })

/-- The value in an answer. -/
def value (client : AgentClient) (method : String) (limit : Duration)
    (outcome : Host.Exchange.Outcome) : Except AgentError Json := do
  match AgentWire.Response.ofSymbols? (Text.symbols (← client.body method limit outcome)) with
  | some response => response.result method
  | none => throw (.protocol method AgentWire.jsonReason)

/-- One request and its answer. -/
def send (client : AgentClient) (method : String) (arguments : List Json) :
    Host.Program (Except AgentError Json) := do
  let outcome ← client.exchange method arguments client.requestTimeout
  return client.value method client.requestTimeout outcome

/-- Asks after a task until its answer is no running task any more, or no rounds are left. -/
def awaitTask (client : AgentClient) : Nat → Json → Host.Program (Except AgentError Json)
  | 0, value => return .ok value
  | rounds + 1, value =>
    match AgentWire.runningTask? value with
    | none => return .ok value
    | some task => do
      ask (.sleep client.taskPollInterval)
      match ← client.send "get_task" [.string task] with
      | .ok value => client.awaitTask rounds value
      | .error e => return .error e

/-- A request that may start a task, and waiting for its end. -/
def sendTask (client : AgentClient) (method : String) (arguments : List Json) :
    Host.Program (Except AgentError Unit) := do
  match ← client.send method arguments with
  | .error e => return .error e
  | .ok value => return (← client.awaitTask client.taskRounds value).map fun _ => ()

/-- The text of a reply to a ping, which may be any value. -/
def pingText (value : Json) : String :=
  value.asString?.getD value.compact

def ping (client : AgentClient) : Host.Program (Except AgentError String) := do
  return (← client.send "ping" []).map pingText

/-- A ping for which there is less time than for other requests: `none` if the time was not
enough. -/
def pingWithin (client : AgentClient) (limit : Duration) :
    Host.Program (Option (Except AgentError String)) := do
  if client.requestTimeout ≤ limit then return some (← client.ping)
  else
    match ← client.exchange "ping" [] limit with
    | .silent => return none
    | outcome => return some ((client.value "ping" limit outcome).map pingText)

def runScript (client : AgentClient) (name : String) (parameters : Json.Fields) :
    Host.Program (Except AgentError Unit) :=
  client.sendTask "run_script" [.string name, .object parameters]

def drain (client : AgentClient) (reason : String) : Host.Program (Except AgentError Unit) :=
  client.sendTask "drain" [.string reason, .object []]

def stop (client : AgentClient) : Host.Program (Except AgentError Unit) :=
  client.sendTask "stop" []

def start (client : AgentClient) : Host.Program (Except AgentError Unit) :=
  client.sendTask "start" []

def getState (client : AgentClient) : Host.Program (Except AgentError AgentState) := do
  return (← client.send "get_state" []).bind fun value =>
    match AgentWire.stateOfTree? value.toTree with
    | some state => .ok state
    | none => .error (.protocol "get_state" AgentWire.jsonReason)

def listDisk (client : AgentClient) : Host.Program (Except AgentError (List (Cid .disk))) := do
  return (← client.send "list_disk" []).bind fun value =>
    match AgentWire.disksOfJson? value with
    | some disks => .ok disks
    | none => .error (.protocol "list_disk" AgentWire.jsonReason)

def unmountDisk (client : AgentClient) (cid : Cid .disk) : Host.Program (Except AgentError Unit) :=
  client.sendTask "unmount_disk" [.string cid.text]

end AgentClient

end DeploymentLifecycle
