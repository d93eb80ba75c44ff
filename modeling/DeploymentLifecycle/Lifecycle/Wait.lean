import DeploymentLifecycle.Lifecycle.Request
import DeploymentLifecycle.Name
import DeploymentLifecycle.Policy.Waiting

namespace DeploymentLifecycle.Lifecycle

/-! The two waits: for an agent that answers, and for an instance that runs. Both poll until a
deadline. -/

/-- How often a poll can be repeated in a time. Polls with a pause between them come to the deadline
within that many rounds; without a pause, each round is taken to last a nanosecond at least. -/
def rounds (time pause : Duration) : Nat :=
  if pause.isZero then time.nanos + 1 else time.nanos / pause.nanos + 2

/-- Pings until the agent answers or the deadline has passed. A ping that is still pending at the
deadline is given up. -/
def pingUntil (deadline delay : Duration) : Nat → Prog signature Bool
  | 0 => return false
  | rounds + 1 => do
    let remaining := deadline - (← ask .now)
    match ← ask (.ping remaining) with
    | .answered _ => return true
    | .pending => return false
    | .failed _ =>
      if deadline ≤ (← ask .now) then return false
      else
        ask (.sleep delay)
        pingUntil deadline delay rounds

/-- Whether the agent answers within the policy's time. The clock is taken to have a reading for the
deadline, however late that is; where it has none, the program is aborted before the first ping. -/
def isReachable (policy : PingPolicy) : Prog signature Bool := do
  let deadline := (← ask .now) + policy.timeout
  pingUntil deadline policy.delay (rounds policy.timeout policy.delay)

/-- Looks at the instance until it runs or the deadline has passed; errors are looks that showed
nothing. -/
def watchUntil (deadline : Duration) (policy : UpdatePolicy) (name : InstanceName) :
    Nat → Option String → Program Unit
  | 0, seen => throw (expired policy name seen)
  | rounds + 1, seen => do
    let seen ← match ← ask .getState with
      | .ok state =>
        if state.isRunning then return ()
        else pure (some state.jobState)
      | .error _ => pure seen
    if deadline ≤ (← ask .now) then throw (expired policy name seen)
    else
      ask (.sleep policy.pollInterval)
      watchUntil deadline policy name rounds seen
where
  expired (policy : UpdatePolicy) (name : InstanceName) (seen : Option String) : LifecycleError :=
    .notRunning name.label policy.watch.closes (seen.getD "unknown")

/-- Pauses until the window opens, and then watches until the instance runs or the window closes. The
clock is taken to have a reading for that, as it has for any window that a text can give. -/
def untilRunning (policy : UpdatePolicy) (name : InstanceName) : Program Unit := do
  if !policy.watch.opens.isZero then
    ask (.sleep policy.watch.opens)
  let window := policy.watch.window
  let deadline := (← ask .now) + window
  watchUntil deadline policy name (rounds window policy.pollInterval) none

end DeploymentLifecycle.Lifecycle
