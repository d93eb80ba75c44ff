import DeploymentLifecycle.Config.Basic

namespace DeploymentLifecycle

/-! How configurations are read from YAML. -/

open Yaml (Node Reading)
open Yaml.Reading (optional)

/-- Reads a duration by its text. -/
def Duration.ofNode (node : Node) : Reading Duration := do
  DurationText.read? (← node.text)

def JobName.ofNode (node : Node) : Reading JobName := do
  (JobName.ofText (← node.text)).toOption

def word32 (node : Node) : Reading UInt32 :=
  Nat.toUInt32 <$> node.natural Text.maxUInt32

def InstanceName.ofNode (node : Node) : Reading InstanceName := do
  match ← node.record ["job", "index"] with
  | [job, index] =>
    return ⟨(← optional JobName.ofNode job).getD .unknown, (← optional word32 index).getD 0⟩
  | _ => failure

def UpdatePolicy.ofNode (node : Node) : Reading UpdatePolicy := do
  match ← node.record UpdatePolicy.fieldNames with
  | [watch, interval] =>
    UpdatePolicy.ofTexts? (← optional Node.text watch) (← optional Node.text interval)
  | _ => failure

/-- Reads a policy that is a whole document. -/
def UpdatePolicy.ofYaml? (text : String) : Option UpdatePolicy := do
  (← Node.ofText? text).read? UpdatePolicy.ofNode

/-- How deep a value of any kind may be nested that is a field of a section. -/
def sectionNesting : Nat := Yaml.deepest - 2

def CpiConfig.ofNode (node : Node) : Reading CpiConfig := do
  match ← node.record ["command", "args", "context", "api_version", "timeout"] with
  | [some command, arguments, context, apiVersion, timeout] =>
    return {
      command := ⟨← command.text⟩
      arguments := (← optional Node.texts arguments).getD []
      context := (← optional (Node.toJsonFields sectionNesting) context).getD []
      apiVersion := (← optional (Node.nullable word32) apiVersion).join
      timeout := (← optional Duration.ofNode timeout).getD (.ofSeconds 600) }
  | _ => failure

def AgentConfig.ofNode (node : Node) : Reading AgentConfig := do
  let names := ["url", "ping_timeout", "ping_delay", "request_timeout", "task_poll_interval"]
  match ← node.record names with
  | [some url, timeout, delay, requestTimeout, taskPollInterval] =>
    return {
      url := ← Setting.ofNode sectionNesting url
      ping := ⟨(← optional Duration.ofNode timeout).getD PingPolicy.standard.timeout,
        (← optional Duration.ofNode delay).getD PingPolicy.standard.delay⟩
      requestTimeout := (← optional Duration.ofNode requestTimeout).getD (.ofSeconds 30)
      taskPollInterval := (← optional Duration.ofNode taskPollInterval).getD (.ofSeconds 1) }
  | _ => failure

namespace Config

def ofNode (node : Node) : Reading Config := do
  match ← node.record ["deployment", "state_file", "instance", "cpi", "agent", "update"] with
  | [deployment, stateFile, instanceName, some cpi, some agent, update] =>
    return {
      deployment := (← optional Node.text deployment).getD "bosun"
      stateFile := (← optional (Node.nullable Node.text) stateFile).join.map Path.mk
      instanceName := (← optional InstanceName.ofNode instanceName).getD {}
      cpi := ← CpiConfig.ofNode cpi
      agent := ← AgentConfig.ofNode agent
      update := (← optional UpdatePolicy.ofNode update).getD .standard }
  | _ => failure

/-- The reason given for a text that is no YAML, or not that of a configuration. -/
def yamlReason : String := "<yaml>"

def ofYaml (text : String) : Except ConfigError Config :=
  match (Node.ofText? text).bind (·.read? ofNode) with
  | some config => config.validate.map fun _ => config
  | none => .error (.yaml yamlReason)

end Config

end DeploymentLifecycle
