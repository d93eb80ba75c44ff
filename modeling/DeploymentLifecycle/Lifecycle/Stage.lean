import DeploymentLifecycle.Lifecycle.Request

namespace DeploymentLifecycle.Lifecycle

/-! Stages: named pieces of work whose start and end are reported. The labels are for people and
decide nothing. -/

/-- What a piece of work came to that did not fail. The reason for skipping is shown to the user. -/
inductive Step where
  | done
  | skipped (reason : String)
deriving DecidableEq, Repr

def Step.outcome : Step → Outcome
  | .done => .done
  | .skipped reason => .skipped reason

/-- Does a piece of work under a label, reports how it ended, and hands its error on. -/
def perform (label : String) (work : Program Step) : Program Unit :=
  ExceptT.mk do
    ask (.stageBegun label)
    let started ← ask .now
    let result ← work.run
    let elapsed := (← ask .now) - started
    match result with
    | .ok step =>
      ask (.stageEnded label step.outcome elapsed)
      return .ok ()
    | .error e =>
      ask (.stageEnded label (.failed e) elapsed)
      return .error e

/-- A stage that is one call of the agent. -/
def agentStage (label : String) (call : Prog signature (Except AgentError Unit)) : Program Unit :=
  perform label do
    agentCall call
    return .done

end DeploymentLifecycle.Lifecycle
