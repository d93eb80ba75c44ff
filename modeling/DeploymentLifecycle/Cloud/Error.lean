import DeploymentLifecycle.IoError
import DeploymentLifecycle.Resource
import DeploymentLifecycle.Time.Duration

namespace DeploymentLifecycle

/-! What can go wrong when a cloud provider is called through its executable. -/

inductive CloudError where
  | provider (method errorType message : String) (okToRetry : Bool)
  | execute (method : String) (cause : IoError)
  | timeout (method : String) (after : Duration)
  | protocol (method reason : String)
deriving DecidableEq, Repr

/-- What an error says about the resource it was about. -/
inductive CloudErrorKind where
  | notFound (resource : Resource)
  | provider
  | transport
deriving DecidableEq, Repr

/-- How a provider names the error that a resource does not exist. -/
def Resource.notFoundType : Resource → String
  | .vm => "Bosh::Clouds::VMNotFound"
  | .disk => "Bosh::Clouds::DiskNotFound"
  | .stemcell => "Bosh::Clouds::StemcellNotFound"

namespace CloudErrorKind

/-- The kind of an error that a provider reports under a type name. -/
def ofErrorType (errorType : String) : CloudErrorKind :=
  match [Resource.vm, .disk, .stemcell].find? fun r => r.notFoundType == errorType with
  | some resource => .notFound resource
  | none => .provider

end CloudErrorKind

namespace CloudError

def message : CloudError → String
  | .provider method errorType message _ =>
    "CPI '" ++ method ++ "' method responded with error: " ++ errorType ++ ": " ++ message
  | .execute method cause => "failed to execute CPI '" ++ method ++ "': " ++ cause.message
  | .timeout method after => "CPI '" ++ method ++ "' timed out after " ++ after.short
  | .protocol method reason => "invalid CPI '" ++ method ++ "' response: " ++ reason

def kind : CloudError → CloudErrorKind
  | .provider _ errorType _ _ => .ofErrorType errorType
  | _ => .transport

end CloudError

end DeploymentLifecycle
