import DeploymentLifecycle.Cloud.Wire
import DeploymentLifecycle.Host
import DeploymentLifecycle.Resource
import DeploymentLifecycle.Text.Basic
import DeploymentLifecycle.Text.Utf8

namespace DeploymentLifecycle

/-! Calls of a cloud provider through its executable, which is run once for every call. -/

structure CloudClient where
  command : Path
  arguments : List String
  context : Json.Fields
  apiVersion : Option UInt32
  timeout : Duration

def Resource.deleteMethod : Resource → String
  | .vm => "delete_vm"
  | .disk => "delete_disk"
  | .stemcell => "delete_stemcell"

namespace CloudClient

/-- Why an output is no answer, with what the executable left behind. -/
def unreadable (status : Int) (complaints : List UInt8) : String :=
  CloudWire.jsonReason ++ " (exit status exit status: " ++ toString status ++ ", stderr: "
    ++ String.ofList (Text.trim (Text.decodeLossy complaints).toList) ++ ")"

/-- What a run of the executable came to. Its exit status does not count, only its output does. -/
def result (client : CloudClient) (method : String) : Host.Execution.Outcome → Except CloudError Json
  | .failed cause => .error (.execute method cause)
  | .silent => .error (.timeout method client.timeout)
  | .ended status output complaints =>
    match CloudWire.Response.ofSymbols? (Text.symbols output) with
    | none => .error (.protocol method (unreadable status complaints))
    | some response =>
      match response.failure with
      | some failure =>
        .error (.provider method failure.errorType failure.message failure.okToRetry)
      | none => .ok response.result

def call (client : CloudClient) (method cid : String) : Host.Program (Except CloudError Json) := do
  let outcome ← Host.ask (.run {
    command := client.command
    arguments := client.arguments
    input := CloudWire.request method [.string cid] client.context client.apiVersion
    limit := client.timeout })
  return client.result method outcome

/-- Whether the provider knows the VM; any answer but a boolean is an error. -/
def knowsVm : Json → Except CloudError Bool
  | .bool known => .ok known
  | other => .error (.protocol "has_vm" ("expected boolean result, got " ++ other.compact))

def hasVm (client : CloudClient) (cid : Cid .vm) : Host.Program (Except CloudError Bool) := do
  return (← client.call "has_vm" cid.text).bind knowsVm

/-- A deletion that fails because the resource does not exist has not failed. -/
def deletion (resource : Resource) : Except CloudError Json → Except CloudError Deletion
  | .ok _ => .ok .deleted
  | .error e => if e.kind = .notFound resource then .ok .notFound else .error e

def delete (client : CloudClient) (resource : Resource) (cid : Cid resource) :
    Host.Program (Except CloudError Deletion) := do
  return deletion resource (← client.call resource.deleteMethod cid.text)

end CloudClient

end DeploymentLifecycle
