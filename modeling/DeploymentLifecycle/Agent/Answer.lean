import DeploymentLifecycle.IoError
import DeploymentLifecycle.Json.Value
import DeploymentLifecycle.Time.Duration

namespace DeploymentLifecycle

/-! What comes of a call of an agent: what it reports about itself and its jobs, or an error. -/

structure AgentState where
  jobState : String
  agentId : Option String := none
  deployment : Option String := none
deriving DecidableEq, Repr

def AgentState.isRunning (state : AgentState) : Bool :=
  state.jobState == "running"

inductive AgentError where
  | invalidUrl (url reason : String)
  | connect (address : String) (cause : IoError)
  | http (method reason : String)
  | status (method : String) (code : Nat) (body : String)
  | timeout (method : String) (after : Duration)
  | exception (method message : String)
  | protocol (method reason : String)
deriving DecidableEq, Repr

namespace AgentError

def message : AgentError → String
  | .invalidUrl url reason => "invalid agent URL '" ++ url ++ "': " ++ reason
  | .connect address cause => "failed to connect to agent at " ++ address ++ ": " ++ cause.message
  | .http method reason => "agent request '" ++ method ++ "' failed: " ++ reason
  | .status method code body =>
    "agent responded to '" ++ method ++ "' with status " ++ toString code ++ ": " ++ body
  | .timeout method after => "agent request '" ++ method ++ "' timed out after " ++ after.short
  | .exception method message => "agent responded to '" ++ method ++ "' with error: " ++ message
  | .protocol method reason => "invalid agent response to '" ++ method ++ "': " ++ reason

/-- Whether no agent answered. Exceptions, malformed answers and refusals come from a live one. -/
def isTransport : AgentError → Bool
  | .exception .. | .protocol .. | .status .. => false
  | _ => true

end AgentError

end DeploymentLifecycle
