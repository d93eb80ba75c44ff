import DeploymentLifecycle.Agent.Answer
import DeploymentLifecycle.Cloud.Error
import DeploymentLifecycle.Resource
import DeploymentLifecycle.State.Store

namespace DeploymentLifecycle

/-! What a lifecycle operation asks for: the stored document, the cloud provider, the agent in the VM,
time, and somebody to report its progress to. And what ends it. -/

/-- What ends an operation on a deployment. An agent that cannot be reached and a resource that is
already gone do not: they are reported as skipped stages. -/
inductive LifecycleError where
  | agent (error : AgentError)
  | cloud (error : CloudError)
  | state (error : StateError)
  | notRunning (label : String) (after : Duration) (lastState : String)
deriving DecidableEq, Repr

def LifecycleError.message : LifecycleError → String
  | .agent error => error.message
  | .cloud error => error.message
  | .state error => error.message
  | .notRunning label after lastState =>
    "instance '" ++ label ++ "' was not running after " ++ after.short ++ " (last state: "
      ++ lastState ++ ")"

namespace Lifecycle

/-- How a stage ended. -/
inductive Outcome where
  | done
  | skipped (reason : String)
  | failed (error : LifecycleError)
deriving Repr

/-- A ping that has not ended within its limit is `pending`; the limit has then been slept. -/
inductive PingReply where
  | answered (text : String)
  | failed (error : AgentError)
  | pending
deriving Repr

inductive Request where
  | store (request : Store.Request)
  | hasVm (cid : Cid .vm)
  | delete (resource : Resource) (cid : Cid resource)
  | ping (limit : Duration)
  | runScript (name : String) (parameters : Json.Fields)
  | drain (reason : String)
  | stop
  | start
  | getState
  | listDisk
  | unmountDisk (cid : Cid .disk)
  | now
  | sleep (time : Duration)
  | stageBegun (label : String)
  | stageEnded (label : String) (outcome : Outcome) (elapsed : Duration)

@[reducible]
def Answer : Request → Type
  | .store request => Store.Answer request
  | .hasVm _ => Except CloudError Bool
  | .delete .. => Except CloudError Deletion
  | .ping _ => PingReply
  | .runScript .. => Except AgentError Unit
  | .drain _ => Except AgentError Unit
  | .stop => Except AgentError Unit
  | .start => Except AgentError Unit
  | .getState => Except AgentError AgentState
  | .listDisk => Except AgentError (List (Cid .disk))
  | .unmountDisk _ => Except AgentError Unit
  | .now => Duration
  | .sleep _ => Unit
  | .stageBegun _ => Unit
  | .stageEnded .. => Unit

def signature : Signature := ⟨Request, Answer⟩

/-- A program that may end in an error. -/
abbrev Program (α : Type) := ExceptT LifecycleError (Prog signature) α

def ask (request : Request) : Prog signature (Answer request) :=
  Prog.request (S := signature) request

/-- A call of the provider, whose error ends the operation. -/
def cloudCall {α : Type} (call : Prog signature (Except CloudError α)) : Program α :=
  ExceptT.mk do return (← call).mapError .cloud

/-- A call of the agent, whose error ends the operation. -/
def agentCall {α : Type} (call : Prog signature (Except AgentError α)) : Program α :=
  ExceptT.mk do return (← call).mapError .agent

/-- A program over the store as a part of an operation. -/
def stored {α : Type} (program : Store.Program α) : Program α :=
  ExceptT.mk do
    let result ← program.run.interpret (T := signature) fun request => ask (.store request)
    return result.mapError .state

end Lifecycle

end DeploymentLifecycle
