import DeploymentLifecycle.Lifecycle.Deployment
import DeploymentLifecycle.Text.Printable

namespace DeploymentLifecycle

/-! Everything that a deployment holds, on one line for a log. -/

namespace Inspect

/-- A name and fields in braces; `open_` marks that not all fields are shown. -/
def block (name : String) (fields : List (String × String)) (open_ : Bool) : String :=
  let shown := fields.map (fun (key, value) => key ++ ": " ++ value) ++ if open_ then [".."] else []
  name ++ " \x7b " ++ ", ".intercalate shown ++ " \x7d"

def optional (text : Option String) : String :=
  match text with
  | some text => "Some(" ++ text ++ ")"
  | none => "None"

def identifier (text : String) : String :=
  "Id(" ++ Text.quoted text ++ ")"

mutual

def json : Json → String
  | .null => "Null"
  | .bool value => "Bool(" ++ toString value ++ ")"
  | .number value => "Number(" ++ String.ofList value.chars ++ ")"
  | .string text => "String(" ++ Text.quoted text ++ ")"
  | .array values => "Array [" ++ ", ".intercalate (jsonItems values) ++ "]"
  | .object pairs => "Object \x7b" ++ ", ".intercalate (jsonFields pairs) ++ "\x7d"

def jsonItems : List Json → List String
  | [] => []
  | value :: rest => json value :: jsonItems rest

def jsonFields : List (String × Json) → List String
  | [] => []
  | (key, value) :: rest => (Text.quoted key ++ ": " ++ json value) :: jsonFields rest

end

end Inspect

open Inspect

def Record.inspect : {kind : Kind} → Record kind → String
  | .disk, record =>
    let properties := "\x7b" ++ ", ".intercalate (jsonFields record.details.cloudProperties) ++ "\x7d"
    block "DiskRecord" [("id", identifier record.id.text), ("cid", identifier record.cid.text),
      ("size", toString record.details.size.toNat), ("cloud_properties", properties)] false
  | .stemcell, record =>
    block "StemcellRecord" [("id", identifier record.id.text),
      ("name", Text.quoted record.details.name), ("version", Text.quoted record.details.version),
      ("api_version", toString record.details.apiVersion.toNat),
      ("cid", identifier record.cid.text)] false

def InstanceName.inspect (name : InstanceName) : String :=
  block "InstanceName" [("job", "JobName(" ++ Text.quoted name.job.text ++ ")"),
    ("index", toString name.index.toNat)] false

namespace Lifecycle

def Instance.inspect (target : Instance) : String :=
  block "Instance" [("name", target.name.inspect), ("vm_cid", identifier target.vm.text)] true

def Deployment.inspect (deployment : Deployment) : String :=
  block "Deployment" [("instance", optional (deployment.vmInstance.map Instance.inspect)),
    ("disk", optional (deployment.disk.map Record.inspect)),
    ("stemcell", optional (deployment.stemcell.map Record.inspect))] true

end Lifecycle

end DeploymentLifecycle
