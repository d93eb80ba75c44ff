import DeploymentLifecycle.Text.Basic
import DeploymentLifecycle.Time.Duration

namespace DeploymentLifecycle

/-! The window in which a started instance must report that it runs. As text it is two counts of
milliseconds with a dash between them. -/

/-- `opens` is the pause before the first look at the instance, `closes` the end of the watch. -/
structure WatchTime where
  opens : Duration
  closes : Duration
deriving DecidableEq, Repr

inductive WatchTimeError where
  | format (text : String)
  | endBeforeStart (startMillis endMillis : Nat)
deriving DecidableEq, Repr

def WatchTimeError.message : WatchTimeError → String
  | .format text => "watch time must look like 'start-end' in milliseconds, got '" ++ text ++ "'"
  | .endBeforeStart start stop =>
    "watch time end (" ++ toString stop ++ "ms) is before start (" ++ toString start ++ "ms)"

namespace WatchTime

/-- The window between two instants, the second of which must not be the earlier one. -/
def between (opens closes : Duration) : Except WatchTimeError WatchTime :=
  if closes < opens then .error (.endBeforeStart opens.millis closes.millis)
  else .ok ⟨opens, closes⟩

/-- The time spent polling after the first pause. -/
def window (watch : WatchTime) : Duration :=
  watch.closes - watch.opens

/-- Five minutes from the start on. -/
def standard : WatchTime := ⟨.zero, .ofMillis 300_000⟩

instance : Inhabited WatchTime := ⟨standard⟩

/-- Splits at the first dash. -/
def splitAtDash? (text : List Char) : Option (List Char × List Char) :=
  match text.dropWhile (· != '-') with
  | _ :: rest => some (text.takeWhile (· != '-'), rest)
  | [] => none

/-- The counts of milliseconds that a text names, in either order. -/
def bounds? (text : String) : Option (Nat × Nat) := do
  let (start, stop) ← splitAtDash? text.toList
  return (← Text.natural? Text.maxUInt64 (Text.trim start),
    ← Text.natural? Text.maxUInt64 (Text.trim stop))

def ofText (text : String) : Except WatchTimeError WatchTime :=
  match bounds? text with
  | some (start, stop) => between (.ofMillis start) (.ofMillis stop)
  | none => .error (.format text)

def toText (watch : WatchTime) : String :=
  toString watch.opens.millis ++ "-" ++ toString watch.closes.millis

end WatchTime

end DeploymentLifecycle
