import DeploymentLifecycle.Json.Reader
import DeploymentLifecycle.Policy.WatchTime
import DeploymentLifecycle.Time.Duration
import DeploymentLifecycle.Time.DurationText

namespace DeploymentLifecycle

/-! How long to wait for an agent that does not answer, how a start waits for its instance, and the
JSON form of the latter. -/

/-- `timeout` is the time after which the agent counts as unreachable, `delay` the pause between two
pings. -/
structure PingPolicy where
  timeout : Duration
  delay : Duration
deriving DecidableEq, Repr

def PingPolicy.standard : PingPolicy := ⟨.ofSeconds 10, .ofMillis 500⟩

instance : Inhabited PingPolicy := ⟨.standard⟩

structure UpdatePolicy where
  watch : WatchTime := .standard
  pollInterval : Duration := .ofSeconds 1
deriving DecidableEq, Repr

namespace UpdatePolicy

def standard : UpdatePolicy := {}

instance : Inhabited UpdatePolicy := ⟨standard⟩

def fieldNames : List String := ["watch_time", "poll_interval"]

def toJson (policy : UpdatePolicy) : Json :=
  .object [("watch_time", .string policy.watch.toText),
    ("poll_interval", .string (DurationText.print policy.pollInterval))]

/-- A policy from the texts of its two fields; a missing one has its standard value. -/
def ofTexts? (watch interval : Option String) : Option UpdatePolicy := do
  let watch ← match watch with
    | some text => (WatchTime.ofText text).toOption
    | none => some standard.watch
  let interval ← match interval with
    | some text => DurationText.read? text
    | none => some standard.pollInterval
  return ⟨watch, interval⟩

/-- The text of a field that may be missing but not null. -/
def fieldText? : Option Json.Tree → Option (Option String)
  | none => some none
  | some tree => tree.toText?.map some

def ofTree? (tree : Json.Tree) : Option UpdatePolicy := do
  match ← tree.record? fieldNames with
  | [watch, interval] => ofTexts? (← fieldText? watch) (← fieldText? interval)
  | _ => none

end UpdatePolicy

end DeploymentLifecycle
