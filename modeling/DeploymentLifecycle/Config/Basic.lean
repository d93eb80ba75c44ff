import DeploymentLifecycle.Config.Setting
import DeploymentLifecycle.IoError
import DeploymentLifecycle.Name
import DeploymentLifecycle.Path
import DeploymentLifecycle.Policy.Waiting
import DeploymentLifecycle.Text.Basic

namespace DeploymentLifecycle

/-! The configuration of a deployment, what is demanded of it, and what can go wrong when it is looked
for, read, checked or written. -/

inductive ConfigError where
  | alreadyExists (path : Path)
  | notFound (directory : Path)
  | missingVariable (name : String)
  | invalid (reason : String)
  | io (cause : IoError)
  | yaml (reason : String)
deriving DecidableEq, Repr

def ConfigError.message : ConfigError → String
  | .alreadyExists path => "file already exists: " ++ path.text
  | .notFound directory => "configuration file not found in " ++ directory.text
  | .missingVariable name => "missing required environment variable: " ++ name
  | .invalid reason => "invalid configuration: " ++ reason
  | .io cause => "I/O error: " ++ cause.message
  | .yaml reason => "YAML parse error: " ++ reason

/-- The provider's executable: its arguments, the context sent with every request, and how long a
call may take. -/
structure CpiConfig where
  command : Path
  arguments : List String := []
  context : Json.Fields := []
  apiVersion : Option UInt32 := none
  timeout : Duration := .ofSeconds 600
deriving Repr

structure AgentConfig where
  url : Setting
  ping : PingPolicy := .standard
  requestTimeout : Duration := .ofSeconds 30
  taskPollInterval : Duration := .ofSeconds 1
deriving Repr

structure Config where
  deployment : String := "bosun"
  stateFile : Option Path := none
  instanceName : InstanceName := {}
  cpi : CpiConfig
  agent : AgentConfig
  update : UpdatePolicy := .standard
deriving Repr

/-- A configuration, and the directory that its relative paths start from. -/
structure LoadedConfig where
  config : Config
  directory : Path
deriving Repr

/-- Where the state document lies: the configured file, or one named for the deployment. -/
def LoadedConfig.statePath (loaded : LoadedConfig) : Path :=
  match loaded.config.stateFile with
  | some path => loaded.directory.join path
  | none => loaded.directory.join ⟨loaded.config.deployment ++ "-state.json"⟩

/-- A configuration that reads well may still make no sense: a deployment and a command need names,
and nothing may poll without a pause. -/
def Config.validate (config : Config) : Except ConfigError Unit :=
  if Text.isBlankText config.deployment then
    .error (.invalid "deployment name cannot be empty")
  else if config.cpi.command.text.isEmpty then
    .error (.invalid "cpi.command cannot be empty")
  else if config.agent.ping.delay.isZero then
    .error (.invalid "agent.ping_delay must be greater than zero")
  else if config.update.pollInterval.isZero then
    .error (.invalid "update.poll_interval must be greater than zero")
  else .ok ()

end DeploymentLifecycle
