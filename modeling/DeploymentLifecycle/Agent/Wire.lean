import DeploymentLifecycle.Agent.Answer
import DeploymentLifecycle.Json.Printer
import DeploymentLifecycle.Json.Reader
import DeploymentLifecycle.Resource

namespace DeploymentLifecycle.AgentWire

/-! The JSON messages that are exchanged with an agent. -/

/-- The reason given for an answer that cannot be read. -/
def jsonReason : String := "<json>"

def request (method : String) (arguments : List Json) (replyTo : String) : String :=
  (Json.object [("method", .string method), ("arguments", .array arguments),
    ("reply_to", .string replyTo)]).compact

/-- An answer holds a value, or the message of an exception. -/
structure Response where
  value : Json := .null
  exception : Option String := none
deriving Repr

/-- The message of an exception; it may be missing. -/
def exception? : Option Json.Tree → Option (Option String)
  | none => some none
  | some .null => some none
  | some tree => do
    match ← tree.record? ["message"] with
    | [none] => return some ""
    | [some message] => return some (← message.toText?)
    | _ => none

def Response.ofTree? (tree : Json.Tree) : Option Response := do
  match ← tree.record? ["value", "exception"] with
  | [value, exception] =>
    let value ← match value with
      | some tree => tree.toJson? (Json.nestingLimit - 1)
      | none => some .null
    return ⟨value, ← exception? exception⟩
  | _ => none

def Response.ofSymbols? (input : List Json.Symbol) : Option Response := do
  Response.ofTree? (← Json.Tree.ofSymbols? input)

/-- The value; an exception is the error, whatever the value. -/
def Response.result (response : Response) (method : String) : Except AgentError Json :=
  match response.exception with
  | some message => .error (.exception method message)
  | none => .ok response.value

/-- The id of a task that a value reports as running. -/
def runningTask? (value : Json) : Option String := do
  let fields ← value.asObject?
  if (← (← fields.get? "state").asString?) = "running" then
    (← fields.get? "agent_task_id").asString?
  else none

/-- The text of a field that may be missing or null. -/
def nullableText? : Option Json.Tree → Option (Option String)
  | none => some none
  | some .null => some none
  | some tree => tree.toText?.map some

def stateOfTree? (tree : Json.Tree) : Option AgentState := do
  match ← tree.record? ["job_state", "agent_id", "deployment"] with
  | [some jobState, agentId, deployment] =>
    return ⟨← jobState.toText?, ← nullableText? agentId, ← nullableText? deployment⟩
  | _ => none

def stateToJson (state : AgentState) : Json :=
  let field (key : String) (text : Option String) : Json.Fields :=
    (text.map fun text => (key, Json.string text)).toList
  .object ([("job_state", .string state.jobState)] ++ field "agent_id" state.agentId
    ++ field "deployment" state.deployment)

/-- The CIDs of an array of texts. -/
def disksOfJson? (value : Json) : Option (List (Cid .disk)) :=
  match value with
  | .array items => items.mapM fun item => item.asString?.map Cid.mk
  | _ => none

end DeploymentLifecycle.AgentWire
