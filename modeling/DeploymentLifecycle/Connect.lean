import DeploymentLifecycle.Agent.Client
import DeploymentLifecycle.Cloud.Client
import DeploymentLifecycle.Config.Load
import DeploymentLifecycle.Lifecycle.Instance
import DeploymentLifecycle.State.FileStore

namespace DeploymentLifecycle

/-! The provider, the agent and the store that a configuration describes. -/

inductive ConnectError where
  | unresolvedUrl (name : String)
  | agent (error : AgentError)
  | cpiMissing (path : Path)
deriving DecidableEq, Repr

namespace ConnectError

def message : ConnectError → String
  | .unresolvedUrl name =>
    "agent URL could not be resolved: " ++ (ConfigError.missingVariable name).message
  | .agent error => "agent client setup failed: " ++ error.message
  | .cpiMissing path => "CPI executable not found: " ++ path.text

end ConnectError

/-- All that a lifecycle operation works with. -/
structure Connection where
  cloud : CloudClient
  agent : AgentClient
  store : FileStore
  settings : Lifecycle.Settings

open Host (ask)

namespace LoadedConfig

/-- The command of the provider: a relative path is seen from the configuration's directory, a lone
name is looked up when it is run. -/
def command (loaded : LoadedConfig) : Path :=
  let command := loaded.config.cpi.command
  if command.parts.length > 1 && !command.isAbsolute then loaded.directory.join command else command

/-- The provider's client; a command that is a path has to exist. -/
def cloudClient (loaded : LoadedConfig) : Host.Program (Except ConnectError CloudClient) := do
  let cpi := loaded.config.cpi
  let command := loaded.command
  let client : CloudClient := ⟨command, cpi.arguments, cpi.context, cpi.apiVersion, cpi.timeout⟩
  if command.parts.length > 1 then
    if ← ask (.isPresent command) then return .ok client
    else return .error (.cpiMissing command)
  else return .ok client

/-- The text of a setting, or the name of the variable that it lacks. -/
def resolve (setting : Setting) : Host.Program (Except String String) := do
  match setting with
  | .literal text => return .ok text
  | .variable name _ =>
    let value ← ask (.variable name)
    return setting.resolve fun _ => value

def agentClient (loaded : LoadedConfig) : Host.Program (Except ConnectError AgentClient) := do
  let config := loaded.config.agent
  match ← resolve config.url with
  | .error name => return .error (.unresolvedUrl name)
  | .ok url =>
    match Endpoint.ofUrl url with
    | .error e => return .error (.agent e)
    | .ok endpoint =>
      let replyTo := "bosun-" ++ (← ask .freshId)
      return .ok {
        endpoint
        replyTo
        requestTimeout := config.requestTimeout
        taskPollInterval := config.taskPollInterval }

def store (loaded : LoadedConfig) : FileStore :=
  ⟨loaded.statePath⟩

/-- Sets up the provider first and then the agent. -/
def connect (loaded : LoadedConfig) : Host.Program (Except ConnectError Connection) := do
  match ← loaded.cloudClient with
  | .error e => return .error e
  | .ok cloud =>
    match ← loaded.agentClient with
    | .error e => return .error e
    | .ok agent =>
      return .ok ⟨cloud, agent, loaded.store,
        ⟨loaded.config.instanceName, loaded.config.agent.ping⟩⟩

end LoadedConfig

namespace Connection

/-- Answers a lifecycle operation on the machine. Its progress goes to a reporter. -/
def answer (connection : Connection) (report : Lifecycle.Request → Host.Program Unit) :
    (request : Lifecycle.Request) → Host.Program (Lifecycle.Answer request)
  | .store request => connection.store.answer request
  | .hasVm cid => connection.cloud.hasVm cid
  | .delete resource cid => connection.cloud.delete resource cid
  | .ping limit => do
    match ← connection.agent.pingWithin limit with
    | some (.ok text) => return .answered text
    | some (.error e) => return .failed e
    | none => return .pending
  | .runScript name parameters => connection.agent.runScript name parameters
  | .drain reason => connection.agent.drain reason
  | .stop => connection.agent.stop
  | .start => connection.agent.start
  | .getState => connection.agent.getState
  | .listDisk => connection.agent.listDisk
  | .unmountDisk cid => connection.agent.unmountDisk cid
  | .now => ask .now
  | .sleep time => ask (.sleep time)
  | .stageBegun label => report (.stageBegun label)
  | .stageEnded label outcome elapsed => report (.stageEnded label outcome elapsed)

end Connection

end DeploymentLifecycle
