import DeploymentLifecycle.Lifecycle.Deployment
import DeploymentLifecycle.Proofs.Run

namespace DeploymentLifecycle.Lifecycle

/-! Which requests the parts of an operation make at all, whatever the answers are. -/

namespace Request

/-- Time and reports, which nobody can refuse. -/
def IsQuiet : Request → Prop
  | .now | .sleep _ | .stageBegun _ | .stageEnded .. => True
  | _ => False

/-- The clock alone. -/
def IsTime : Request → Prop
  | .now | .sleep _ => True
  | _ => False

theorem IsTime.quiet {request : Request} (time : request.IsTime) : request.IsQuiet := by
  cases request <;> trivial

def IsStore : Request → Prop
  | .store _ => True
  | _ => False

def IsPing : Request → Prop
  | .ping _ => True
  | _ => False

def IsAgent : Request → Prop
  | .ping _ | .runScript .. | .drain _ | .stop | .start | .getState | .listDisk
  | .unmountDisk _ => True
  | _ => False

/-- A call of the agent that is made only after it has answered a ping. -/
def IsGuest (request : Request) : Prop := request.IsAgent ∧ ¬ request.IsPing

def IsCloud : Request → Prop
  | .hasVm _ | .delete .. => True
  | _ => False

/-- A request that has to do neither with the stored document nor with a deletion. -/
def IsAside : Request → Prop
  | .store _ => False
  | .delete .. => False
  | _ => True

instance : DecidablePred IsPing
  | .ping _ => isTrue trivial
  | .now | .sleep _ | .stageBegun _ | .stageEnded .. | .store _ | .hasVm _ | .delete ..
  | .runScript .. | .drain _ | .stop | .start | .getState | .listDisk | .unmountDisk _ => isFalse id

instance : DecidablePred IsAgent
  | .ping _ | .runScript .. | .drain _ | .stop | .start | .getState | .listDisk
  | .unmountDisk _ => isTrue trivial
  | .now | .sleep _ | .stageBegun _ | .stageEnded .. | .store _ | .hasVm _
  | .delete .. => isFalse id

instance : DecidablePred IsGuest := fun _ => inferInstanceAs (Decidable (_ ∧ _))

end Request

open Request

/-- What is done to start an instance whose agent has answered. -/
def Instance.startJobs (target : Instance) (update : UpdatePolicy) : Program Unit := do
  target.runScript "pre-start"
  agentStage (target.labelled "Starting the agent") (ask .start)
  perform ("Waiting for instance '" ++ target.name.label ++ "' to be running") do
    untilRunning update target.name
    return .done
  target.runScript "post-start"

section Parts

variable {only : signature.Request → Prop} {α : Type}

@[simp]
theorem asks_ask {request : Request} : (ask request).Asks only ↔ only request := Prog.asks_request

theorem asks_ask_bind {request : Request} {next : Answer request → Prog signature α}
    (first : only request) (rest : ∀ answer, (next answer).Asks only) :
    (ask request >>= next).Asks only :=
  (asks_ask.2 first).bind rest

theorem agentCall_asks {call : Prog signature (Except AgentError α)} (asks : call.Asks only) :
    (agentCall call).run.Asks only :=
  Prog.Asks.bind asks fun _ => trivial

theorem cloudCall_asks {call : Prog signature (Except CloudError α)} (asks : call.Asks only) :
    (cloudCall call).run.Asks only :=
  Prog.Asks.bind asks fun _ => trivial

theorem lift_asks {call : Prog signature α} (asks : call.Asks only) :
    (liftM call : Program α).run.Asks only :=
  Prog.Asks.bind asks fun _ => trivial

theorem stored_asks {program : Store.Program α} (store : ∀ request, only (.store request)) :
    (stored program).run.Asks only := by
  have interpreted : ∀ {β : Type} (inner : Prog Store.signature β),
      (inner.interpret fun request => ask (.store request)).Asks only := by
    intro β inner
    induction inner with
    | done value => trivial
    | ask request next ih => exact asks_ask_bind (store request) ih
  exact (interpreted program.run).bind fun _ => trivial

section Waits

variable (timed : ∀ request : Request, request.IsTime → only request)

include timed

theorem pingUntil_asks (ping : ∀ limit, only (.ping limit)) (deadline delay : Duration)
    (rounds : Nat) : (pingUntil deadline delay rounds).Asks only := by
  induction rounds with
  | zero => trivial
  | succ rounds ih =>
      refine asks_ask_bind (timed _ trivial) fun now => asks_ask_bind (ping _) fun reply => ?_
      cases reply with
      | answered text => trivial
      | pending => trivial
      | failed error =>
          refine asks_ask_bind (timed _ trivial) fun now => ?_
          split
          · trivial
          · exact asks_ask_bind (timed _ trivial) fun _ => ih

theorem isReachable_asks (ping : ∀ limit, only (.ping limit)) (policy : PingPolicy) :
    (isReachable policy).Asks only :=
  asks_ask_bind (timed .now trivial) fun _ => pingUntil_asks timed ping _ _ _

theorem watchUntil_asks (looks : only .getState) (deadline : Duration) (policy : UpdatePolicy)
    (name : InstanceName) (rounds : Nat) (seen : Option String) :
    (watchUntil deadline policy name rounds seen).run.Asks only := by
  have reads : (ask .now).Asks only := asks_ask.2 (timed _ trivial)
  have sleeps : (ask (.sleep policy.pollInterval)).Asks only := asks_ask.2 (timed _ trivial)
  have asksState : (ask .getState).Asks only := asks_ask.2 looks
  induction rounds generalizing seen with
  | zero => trivial
  | succ rounds ih =>
      have again : ∀ seen : Option String, (do
          if deadline ≤ (← ask .now) then throw (watchUntil.expired policy name seen)
          else
            ask (.sleep policy.pollInterval)
            watchUntil deadline policy name rounds seen : Program Unit).run.Asks only := by
        intro seen
        refine (lift_asks reads).exceptBind fun now => ?_
        split
        · trivial
        · exact (lift_asks sleeps).exceptBind fun _ => ih seen
      refine (lift_asks asksState).exceptBind fun reply => ?_
      cases reply with
      | error error => exact again seen
      | ok state =>
          dsimp only
          split
          · trivial
          · exact again (some state.jobState)

theorem untilRunning_asks (looks : only .getState) (policy : UpdatePolicy) (name : InstanceName) :
    (untilRunning policy name).run.Asks only := by
  have sleeps : (ask (.sleep policy.watch.opens)).Asks only := asks_ask.2 (timed _ trivial)
  have watching : (do
      let deadline := (← ask .now) + policy.watch.window
      watchUntil deadline policy name (rounds policy.watch.window policy.pollInterval) none :
        Program Unit).run.Asks only :=
    (lift_asks (asks_ask.2 (timed .now trivial))).exceptBind
      fun now => watchUntil_asks timed looks _ _ _ _ _
  rw [untilRunning]
  split
  · exact (lift_asks sleeps).exceptBind fun _ => watching
  · exact watching

end Waits

variable (quiet : ∀ request : Request, request.IsQuiet → only request)

include quiet

theorem perform_asks {label : String} {work : Program Step} (asks : work.run.Asks only) :
    (perform label work).run.Asks only := by
  refine asks_ask_bind (quiet _ trivial) fun _ => asks_ask_bind (quiet _ trivial) fun started => ?_
  refine asks.bind fun result => asks_ask_bind (quiet _ trivial) fun ended => ?_
  cases result with
  | ok step => exact asks_ask_bind (quiet _ trivial) fun _ => trivial
  | error error => exact asks_ask_bind (quiet _ trivial) fun _ => trivial

theorem agentStage_asks {label : String} {call : Prog signature (Except AgentError Unit)}
    (asks : call.Asks only) : (agentStage label call).run.Asks only :=
  perform_asks quiet ((agentCall_asks asks).exceptBind fun _ => trivial)

theorem awaitAgent_asks (ping : ∀ limit, only (.ping limit)) (target : Instance)
    (policy : PingPolicy) : (target.awaitAgent policy).run.Asks only := by
  have reachable := isReachable_asks (fun _ time => quiet _ time.quiet) ping policy
  refine asks_ask_bind (quiet _ trivial) fun _ => asks_ask_bind (quiet _ trivial) fun started => ?_
  refine reachable.bind fun answered => asks_ask_bind (quiet _ trivial) fun ended => ?_
  exact asks_ask_bind (quiet _ trivial) fun _ => trivial

variable (guest : ∀ request : Request, request.IsGuest → only request)

include guest

theorem runScript_asks (target : Instance) (name : String) :
    (target.runScript name).run.Asks only :=
  agentStage_asks quiet (asks_ask.2 (guest (.runScript name []) ⟨trivial, id⟩))

theorem stopJobs_asks (target : Instance) (skipDrain : Bool) :
    (target.stopJobs skipDrain).run.Asks only := by
  have drains : (ask (.drain drainReason)).Asks only := asks_ask.2 (guest _ ⟨trivial, id⟩)
  have stops : (ask .stop).Asks only := asks_ask.2 (guest _ ⟨trivial, id⟩)
  have stopping : (do
      agentStage (target.labelled "Stopping jobs on instance") (ask .stop)
      target.runScript "post-stop" : Program Unit).run.Asks only :=
    (agentStage_asks quiet stops).exceptBind fun _ => runScript_asks quiet guest target _
  refine (runScript_asks quiet guest target _).exceptBind fun _ => ?_
  dsimp only
  split
  · exact (agentStage_asks quiet drains).exceptBind fun _ => stopping
  · exact stopping

theorem startJobs_asks (target : Instance) (update : UpdatePolicy) :
    (target.startJobs update).run.Asks only := by
  have starts : (ask .start).Asks only := asks_ask.2 (guest _ ⟨trivial, id⟩)
  have watches := untilRunning_asks (fun _ time => quiet _ time.quiet) (guest _ ⟨trivial, id⟩)
    update target.name
  refine (runScript_asks quiet guest target _).exceptBind fun _ => ?_
  refine (agentStage_asks quiet starts).exceptBind fun _ => ?_
  refine (perform_asks quiet ?_).exceptBind fun _ => runScript_asks quiet guest target _
  exact watches.exceptBind fun _ => trivial

theorem unmountDisks_asks : Instance.unmountDisks.run.Asks only := by
  have lists : (ask .listDisk).Asks only := asks_ask.2 (guest _ ⟨trivial, id⟩)
  have unmounts : ∀ disk, (ask (.unmountDisk disk)).Asks only :=
    fun _ => asks_ask.2 (guest _ ⟨trivial, id⟩)
  refine (agentCall_asks lists).exceptBind fun mounted => ?_
  induction mounted with
  | nil => trivial
  | cons disk rest ih => exact (agentStage_asks quiet (unmounts disk)).exceptBind fun _ => ih

variable (ping : ∀ limit, only (.ping limit))

include ping

theorem Instance.stop_asks (target : Instance) (settings : Settings) (skipDrain : Bool) :
    (target.stop settings skipDrain).run.Asks only := by
  refine (awaitAgent_asks quiet ping target settings.ping).exceptBind fun reachable => ?_
  cases reachable with
  | false => trivial
  | true => exact stopJobs_asks quiet guest target skipDrain

theorem Instance.start_asks (target : Instance) (settings : Settings) (update : UpdatePolicy) :
    (target.start settings update).run.Asks only := by
  refine (awaitAgent_asks quiet ping target settings.ping).exceptBind fun reachable => ?_
  cases reachable with
  | false => trivial
  | true => exact startJobs_asks quiet guest target update

end Parts

section Deletions

variable {only : signature.Request → Prop}
  (quiet : ∀ request : Request, request.IsQuiet → only request)
  (store : ∀ request, only (.store request))

include quiet store

omit quiet in
/-- The work of a deletion is the provider's first and then the store's. -/
theorem deletionWork_asks {resource : Resource} {cid : Cid resource} {program : Store.Program Unit}
    {next : Deletion → Program Step} (delete : only (.delete resource cid))
    (rest : ∀ deletion, (next deletion).run.Asks only) :
    (cloudCall (ask (.delete resource cid)) >>= fun deletion => do
      stored program
      next deletion).run.Asks only :=
  (cloudCall_asks (asks_ask.2 delete)).exceptBind fun deletion =>
    (stored_asks store).exceptBind fun _ => rest deletion

theorem Instance.deleteVm_asks (target : Instance) (vm : only (.delete .vm target.vm)) :
    target.deleteVm.run.Asks only :=
  perform_asks quiet (deletionWork_asks store vm fun deletion => by cases deletion <;> trivial)

theorem release_asks {kind : Kind} (label : String) (record : Record kind)
    (resource : only (.delete kind.resource record.cid)) :
    (release label record).run.Asks only :=
  perform_asks quiet
    (deletionWork_asks store resource fun deletion => by cases deletion <;> trivial)

theorem releaseCurrent_asks {kind : Kind} (record : Record kind)
    (resource : ∀ cid, only (.delete kind.resource cid)) :
    (releaseCurrent record).run.Asks only := by
  refine Prog.Asks.exceptBind (stored_asks store) fun current => ?_
  cases current with
  | none => trivial
  | some current =>
      dsimp only
      split
      · exact release_asks quiet store _ _ (resource _)
      · trivial

omit quiet in
theorem Deployment.current?_asks (settings : Settings) :
    (Deployment.current? settings).run.Asks only := by
  have vmInstance : (currentInstance? settings).run.Asks only :=
    Prog.Asks.exceptBind (stored_asks store) fun _ => trivial
  have record : ∀ kind, (currentRecord? kind).run.Asks only := fun _ => stored_asks store
  refine vmInstance.exceptBind fun _ => ?_
  exact (record .disk).exceptBind fun _ => (record .stemcell).exceptBind fun _ => trivial

theorem releaseUnused_asks (kind : Kind) (resource : ∀ cid, only (.delete kind.resource cid)) :
    (releaseUnused kind).run.Asks only := by
  refine Prog.Asks.exceptBind (stored_asks store) fun records => ?_
  induction records with
  | nil => trivial
  | cons record rest ih =>
      exact (release_asks quiet store _ record (resource _)).exceptBind fun _ => ih

theorem cleanup_asks (resource : ∀ (kind : Kind) cid, only (.delete kind.resource cid)) :
    cleanup.run.Asks only :=
  (releaseUnused_asks quiet store .disk (resource .disk)).exceptBind
    fun _ => releaseUnused_asks quiet store .stemcell (resource .stemcell)

theorem Instance.delete_asks (ping : ∀ limit, only (.ping limit))
    (guest : ∀ request : Request, request.IsGuest → only request) (target : Instance)
    (settings : Settings) (skipDrain : Bool) (known : only (.hasVm target.vm))
    (vm : only (.delete .vm target.vm)) :
    (target.delete settings skipDrain).run.Asks only := by
  have deletion := deleteVm_asks quiet store target vm
  refine (cloudCall_asks (asks_ask.2 known)).exceptBind fun known => ?_
  cases known with
  | false => exact deletion
  | true =>
      refine (awaitAgent_asks quiet ping target settings.ping).exceptBind fun reachable => ?_
      cases reachable with
      | false => exact deletion
      | true =>
          refine (stopJobs_asks quiet guest target skipDrain).exceptBind fun _ => ?_
          exact (unmountDisks_asks quiet guest).exceptBind fun _ => deletion

end Deletions

end DeploymentLifecycle.Lifecycle
