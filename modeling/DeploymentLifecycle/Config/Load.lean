import DeploymentLifecycle.Config.Reading
import DeploymentLifecycle.Host
import DeploymentLifecycle.Text.Utf8

namespace DeploymentLifecycle.Config

/-! Finding and loading the configuration file. -/

open Host (ask)

def fileName : Path := ⟨"bosun.yml"⟩
def otherFileName : Path := ⟨"bosun.yaml"⟩

/-- The directory that may hold the configuration beside a deployment. -/
def hiddenDirectory : String := ".bosun"

def hiddenFileName : Path := ⟨".bosun/config.yml"⟩

/-- The directory that a configuration's relative paths start from: the one it lies in, or the one
around that if it is the hidden one. -/
def baseOf (path : Path) : Path :=
  let directory := path.parent?.getD ⟨"."⟩
  if directory.endsWith hiddenDirectory then directory.parent?.getD directory else directory

/-- The configuration in a file's bytes. -/
def ofBytes (bytes : List UInt8) : Except ConfigError Config :=
  match Text.decode? bytes with
  | some text => Config.ofYaml text
  | none => .error (.io .notText)

def load (path : Path) : Host.Program (Except ConfigError LoadedConfig) := do
  match ← ask (.read path) with
  | .error cause => return .error (.io cause)
  | .ok bytes => return (ofBytes bytes).map fun config => ⟨config, baseOf path⟩

/-- Loads the first of the candidates that exists. -/
def loadFirst (directory : Path) : List Path → Host.Program (Except ConfigError LoadedConfig)
  | [] => return .error (.notFound directory)
  | candidate :: rest => do
    if ← ask (.isPresent candidate) then load candidate else loadFirst directory rest

def candidates (directory : Path) : List Path :=
  [fileName, otherFileName, hiddenFileName].map directory.join

/-- Loads the configuration of a directory. -/
def discover (directory : Path) : Host.Program (Except ConfigError LoadedConfig) :=
  loadFirst directory (candidates directory)

end DeploymentLifecycle.Config
