import DeploymentLifecycle.Cli.Arguments
import DeploymentLifecycle.Host
import DeploymentLifecycle.Json.Printer
import DeploymentLifecycle.Lifecycle.Request

namespace DeploymentLifecycle.Cli

/-! What is printed in each output mode. -/

/-- Seconds with one decimal place. -/
def secondsText (elapsed : Duration) : String :=
  let tenths := (elapsed.nanos + 50_000_000) / 100_000_000
  toString (tenths / 10) ++ "." ++ toString (tenths % 10) ++ "s"

def secondsJson (elapsed : Duration) : Json :=
  .number (.double (elapsed.seconds.toFloat + elapsed.subsecondNanos.toFloat / 1e9).toBits)

/-- Fields that end with the time that something took, if it was taken. -/
def withSeconds (fields : Json.Fields) (elapsed : Option Duration) : Json :=
  .object (fields ++ (elapsed.map fun time => ("duration_secs", secondsJson time)).toList)

/-- An event as a JSON object. -/
def eventJson (event message : String) (elapsed : Option Duration) : Json :=
  withSeconds [("event", .string event), ("message", .string message)] elapsed

namespace OutputMode

/-- The line that says that something goes on. -/
def progress (mode : OutputMode) (message : String) : List String :=
  match mode with
  | .normal => [message]
  | _ => []

/-- The line that ends a command; a time is shown only if any has passed. -/
def success (mode : OutputMode) (message : String) (elapsed : Option Duration) : List String :=
  match mode with
  | .normal =>
    match elapsed with
    | some time =>
      if time.isZero then [message] else [message ++ " (" ++ secondsText time ++ ")"]
    | none => [message]
  | .quiet => [message]
  | .json => [(eventJson "success" message elapsed).compact]

/-- The line for an error. -/
def failure (mode : OutputMode) (message : String) : String :=
  match mode with
  | .json => (eventJson "error" message none).compact
  | _ => "Error: " ++ message

/-- A value in JSON, or lines of text. -/
def summary (mode : OutputMode) (value : Json) (lines : List String) : List String :=
  match mode with
  | .json => [value.compact]
  | _ => lines

def stageBegun (mode : OutputMode) (label : String) : List String :=
  match mode with
  | .normal => ["  → " ++ label ++ "..."]
  | _ => []

/-- The name of an outcome, and the reason for it. -/
def outcomeName : Lifecycle.Outcome → String × Option String
  | .done => ("done", none)
  | .skipped reason => ("skipped", some reason)
  | .failed error => ("failed", some error.message)

/-- An outcome as a JSON object. -/
def stageJson (label : String) (outcome : Lifecycle.Outcome) (elapsed : Duration) : Json :=
  let (name, reason) := outcomeName outcome
  withSeconds ([("event", .string "stage"), ("name", .string label), ("outcome", .string name)]
    ++ (reason.map fun reason => ("reason", Json.string reason)).toList) (some elapsed)

def stageEnded (mode : OutputMode) (label : String) (outcome : Lifecycle.Outcome)
    (elapsed : Duration) : List String :=
  match mode, outcome with
  | .normal, .done => ["  ✓ " ++ label ++ " (" ++ secondsText elapsed ++ ")"]
  | .normal, .skipped reason => ["  ↷ " ++ label ++ " (skipped: " ++ reason ++ ")"]
  | .normal, .failed error =>
    ["  ✗ " ++ label ++ " (" ++ secondsText elapsed ++ "): " ++ error.message]
  | .quiet, _ => []
  | .json, outcome => [(stageJson label outcome elapsed).compact]

end OutputMode

def printAll (lines : List String) : Host.Program Unit :=
  lines.forM fun line => Host.ask (.print line)

/-- Prints the events of stages. -/
def report (mode : OutputMode) : Lifecycle.Request → Host.Program Unit
  | .stageBegun label => printAll (mode.stageBegun label)
  | .stageEnded label outcome elapsed => printAll (mode.stageEnded label outcome elapsed)
  | _ => return ()

end DeploymentLifecycle.Cli
