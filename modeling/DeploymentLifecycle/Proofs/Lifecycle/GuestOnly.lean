import DeploymentLifecycle.Proofs.Lifecycle.KeptHandles
import DeploymentLifecycle.Proofs.Lifecycle.Watch

namespace DeploymentLifecycle.Lifecycle

/-! Stopping and starting a deployment concerns nothing but what runs in its VM. -/

/-- What an instance is made to do: something that its agent is called for, or to come to run. -/
inductive Duty where
  | call (event : Except AgentError Unit → Event signature)
  | run (update : UpdatePolicy)

def stopDuties (skipDrain : Bool) : List Duty :=
  .call (fun answer => ⟨.runScript "pre-stop" [], answer⟩) ::
    (if skipDrain then [] else [.call fun answer => ⟨.drain drainReason, answer⟩]) ++
    [.call fun answer => ⟨.stop, answer⟩, .call fun answer => ⟨.runScript "post-stop" [], answer⟩]

def startDuties (update : UpdatePolicy) : List Duty :=
  [.call fun answer => ⟨.runScript "pre-start" [], answer⟩, .call fun answer => ⟨.start, answer⟩,
    .run update, .call fun answer => ⟨.runScript "post-start" [], answer⟩]

/-- The watch of an instance: one look at it after the other, until one shows it running, or one is
over only when the window has closed. -/
structure Watched (update : UpdatePolicy) (name : InstanceName) (begun : Duration)
    (looks : List Looked) (trace : List (Event signature)) (result : Except LifecycleError Unit) :
    Prop where
  log : PollLog update.pollInterval Looked.events
    (Looked.MissedBefore (begun + update.watch.window)) Looked.ShowsRunning looks trace
    (result = .ok ())
  fits : ∀ look ∈ looks, look.Fits
  verdict : result = .ok () ∨ result = .error (.notRunning name.label update.watch.closes
    ((looks.filterMap Looked.jobState?).getLast?.getD "unknown"))

/-- What happens when an instance does its duty, and what that comes to. -/
def Duty.Comes (target : Instance) (trace : List (Event signature))
    (result : Except LifecycleError Unit) : Duty → Prop
  | .call event => ∃ answer, guestCalls trace = [event answer] ∧ result = answer.mapError .agent
  | .run update => ∃ opening begun looks watch closing,
    trace = opening ++ ⟨.now, begun⟩ :: watch ++ closing ∧
    (∀ event ∈ opening ++ closing, event.request.IsQuiet) ∧
    Watched update target.name begun looks watch result

/-- Duties are done one after the other, until one fails. -/
inductive Carried (target : Instance) :
    List Duty → List (Event signature) → Except LifecycleError Unit → Prop
  | done : Carried target [] [] (.ok ())
  | failed {duty : Duty} {left : List Duty} {trace : List (Event signature)}
      {error : LifecycleError} (comes : duty.Comes target trace (.error error)) :
      Carried target (duty :: left) trace (.error error)
  | next {duty : Duty} {left : List Duty} {first rest : List (Event signature)}
      {result : Except LifecycleError Unit} (comes : duty.Comes target first (.ok ()))
      (onward : Carried target left rest result) :
      Carried target (duty :: left) (first ++ rest) result

section Carried

variable {target : Instance} {duty : Duty} {left : List Duty} {label name : String}
  {trace : List (Event signature)} {result : Except LifecycleError Unit}

theorem Carried.last (comes : duty.Comes target trace result) :
    Carried target [duty] trace result := by
  cases result with
  | error error => exact .failed comes
  | ok done => exact List.append_nil trace ▸ .next comes .done

theorem Carried.of_bind {program : Program Unit} {next : Unit → Program Unit}
    (comes : ∀ first rest outcome, trace = first ++ rest → program.run.Yields first outcome →
      duty.Comes target first outcome)
    (onward : ∀ first rest, trace = first ++ rest → (next ()).run.Yields rest result →
      Carried target left rest result)
    (run : (program >>= next).run.Yields trace result) :
    Carried target (duty :: left) trace result := by
  rcases Prog.yields_exceptBind.1 run with
    ⟨error, rfl, failing⟩ | ⟨value, first, rest, rfl, start, finish⟩
  · exact .failed (comes trace [] _ (List.append_nil trace).symm failing)
  · exact .next (comes first rest _ rfl start) (onward first rest rfl finish)

/-- What the agent is called for after it has answered a ping. -/
def guestRequests (trace : List (Event signature)) : List Request :=
  (guestCalls trace).map fun event => event.request

theorem guestRequests_append {first rest : List (Event signature)} :
    guestRequests (first ++ rest) = guestRequests first ++ guestRequests rest :=
  (congrArg (List.map _) guestCalls_append).trans List.map_append

theorem guestRequests_quiet (quiet : ∀ event ∈ trace, event.request.IsQuiet) :
    guestRequests trace = [] := by
  rw [guestRequests, guestCalls_eq_nil fun event member => not_guest_of_quiet (quiet event member)]
  rfl

theorem guestRequests_looks {pause : Duration} (looks : List Looked) :
    guestRequests ([⟨.sleep pause, ()⟩].intercalate (looks.map Looked.events)) =
      List.replicate looks.length .getState := by
  induction looks with
  | nil => rfl
  | cons look rest ih =>
      have called : guestRequests look.events = [.getState] := by cases look <;> rfl
      have pauses : guestRequests [⟨.sleep pause, ()⟩] = [] := rfl
      by_cases last : rest.map Looked.events = []
      · rw [List.map_cons, last, List.intercalate_singleton, called, List.map_eq_nil_iff.1 last]
        rfl
      · rw [List.map_cons, List.intercalate_cons_of_ne_nil last, guestRequests_append,
          guestRequests_append, called, pauses, ih]
        rfl

/-- The calls that are made of the agent for a duty. -/
def Duty.Asks (requests : List Request) : Duty → Prop
  | .call event => ∃ answer, requests = [(event answer).request]
  | .run _ => ∃ looks, requests = List.replicate (looks + 1) .getState

theorem Duty.exists_asks (duties : List Duty) : ∃ parts : List (List Request),
    List.Forall₂ (fun duty requests => duty.Asks requests) duties parts := by
  induction duties with
  | nil => exact ⟨[], .nil⟩
  | cons duty left ih =>
      obtain ⟨parts, asks⟩ := ih
      cases duty with
      | call event => exact ⟨[(event (.ok ())).request] :: parts, .cons ⟨.ok (), rfl⟩ asks⟩
      | run update => exact ⟨[.getState] :: parts, .cons ⟨0, rfl⟩ asks⟩

theorem Duty.Comes.asks (comes : duty.Comes target trace result) :
    duty.Asks (guestRequests trace) := by
  cases duty with
  | call event =>
      obtain ⟨answer, calls, _⟩ := comes
      refine ⟨answer, ?_⟩
      rw [guestRequests, calls]
      rfl
  | run update =>
      obtain ⟨opening, begun, looks, watch, closing, rfl, quiet, watched⟩ := comes
      obtain ⟨first, last⟩ := List.forall_mem_append.1 quiet
      obtain ⟨count, length⟩ := Nat.exists_eq_add_one_of_ne_zero
        (mt List.length_eq_zero_iff.1 watched.log.begun)
      have looked : guestRequests (⟨.now, begun⟩ :: watch) = guestRequests watch := rfl
      refine ⟨count, ?_⟩
      rw [guestRequests_append, guestRequests_append, guestRequests_quiet first,
        guestRequests_quiet last, looked, watched.log.whole, List.append_nil, List.nil_append,
        guestRequests_looks, length]

/-- The calls are a beginning of those for all duties, and are all of them if no duty failed. -/
def CallsFor (duties : List Duty) (trace : List (Event signature))
    (result : Except LifecycleError Unit) : Prop :=
  ∃ parts : List (List Request),
    List.Forall₂ (fun duty requests => duty.Asks requests) duties parts ∧
    guestRequests trace <+: parts.flatten ∧
    (result = .ok () → guestRequests trace = parts.flatten)

theorem Carried.calls {duties : List Duty} (carried : Carried target duties trace result) :
    CallsFor duties trace result := by
  induction carried with
  | done => exact ⟨[], .nil, List.prefix_rfl, fun _ => rfl⟩
  | failed comes =>
      obtain ⟨parts, asks⟩ := Duty.exists_asks _
      exact ⟨_ :: parts, .cons comes.asks asks, List.prefix_append .., nofun⟩
  | next comes onward ih =>
      obtain ⟨parts, asks, begins, whole⟩ := ih
      refine ⟨_ :: parts, .cons comes.asks asks, ?_, fun done => ?_⟩
      · rw [guestRequests_append, List.flatten_cons]
        exact (List.prefix_append_right_inj _).2 begins
      · rw [guestRequests_append, List.flatten_cons, whole done]

theorem runScript_comes (run : (target.runScript name).run.Yields trace result) :
    (Duty.call fun answer => ⟨.runScript name [], answer⟩).Comes target trace result :=
  agentStage_yields (fun answer => ⟨.runScript name [], answer⟩) Prog.yields_request.1
    (fun _ => ⟨trivial, id⟩) run

theorem stopJobs_carried {skipDrain : Bool}
    (run : (target.stopJobs skipDrain).run.Yields trace result) :
    Carried target (stopDuties skipDrain) trace result := by
  have stopping : ∀ trace, (do
      agentStage (target.labelled "Stopping jobs on instance") (ask .stop)
      target.runScript "post-stop" : Program Unit).run.Yields trace result →
        Carried target [.call fun answer => ⟨.stop, answer⟩,
          .call fun answer => ⟨.runScript "post-stop" [], answer⟩] trace result :=
    fun trace => Carried.of_bind
      (fun first rest outcome _ => agentStage_yields (fun answer => ⟨.stop, answer⟩)
        Prog.yields_request.1 fun _ => ⟨trivial, id⟩)
      fun first rest _ => fun run => .last (runScript_comes run)
  refine Carried.of_bind (fun first rest outcome _ => runScript_comes)
    (fun first rest _ finish => ?_) run
  cases skipDrain with
  | true => exact stopping rest finish
  | false =>
      exact Carried.of_bind
        (fun first rest outcome _ => agentStage_yields (fun answer => ⟨.drain drainReason, answer⟩)
          Prog.yields_request.1 fun _ => ⟨trivial, id⟩)
        (fun first rest _ => stopping rest) finish

theorem untilRunning_watched {update : UpdatePolicy} {name : InstanceName} {start after : Duration}
    (positive : 0 < update.pollInterval.nanos)
    (run : (untilRunning update name).run.Yields trace result)
    (along : clock.Along start trace after) : ∃ begun looks watch,
      trace = opening update.watch.opens ++ ⟨.now, begun⟩ :: watch ∧
      Watched update name begun looks watch result := by
  obtain ⟨begun, watch, rfl, _, rounds⟩ := untilRunning_rounds positive run along
  obtain ⟨looks, log, fits, verdict⟩ := watchLog_of_rounds rounds
  rw [watchUntil.expired, lastSeen, Option.or_none] at verdict
  exact ⟨begun, looks, watch, rfl, log, fits, verdict⟩

theorem opening_quiet (opens : Duration) : ∀ event ∈ opening opens, event.request.IsQuiet := by
  rw [opening]
  split
  · exact List.forall_mem_nil _
  · exact List.forall_mem_singleton.2 trivial

theorem watchStage_comes {update : UpdatePolicy} {start after : Duration}
    (positive : 0 < update.pollInterval.nanos)
    (run : (perform label do
      untilRunning update target.name
      return .done).run.Yields trace result)
    (along : clock.Along start trace after) : (Duty.run update).Comes target trace result := by
  obtain ⟨opens, watch, closes, rfl, quietFirst, quietLast, watching⟩ := watchStage_yields run
  obtain ⟨_, along, _⟩ := Conduct.along_append.1 along
  obtain ⟨_, _, along⟩ := Conduct.along_append.1 along
  obtain ⟨begun, looks, watch, rfl, watched⟩ := untilRunning_watched positive watching along
  have quiet := List.forall_mem_append.2
    ⟨List.forall_mem_append.2 ⟨quietFirst, opening_quiet update.watch.opens⟩, quietLast⟩
  exact ⟨opens ++ opening update.watch.opens, begun, looks, watch, closes, by simp, quiet, watched⟩

theorem startJobs_carried {update : UpdatePolicy} {start after : Duration}
    (positive : 0 < update.pollInterval.nanos)
    (run : (target.startJobs update).run.Yields trace result)
    (along : clock.Along start trace after) :
    Carried target (startDuties update) trace result := by
  refine Carried.of_bind (fun first rest outcome _ => runScript_comes)
    (fun first rest same finish => ?_) run
  subst same
  obtain ⟨_, _, along⟩ := Conduct.along_append.1 along
  refine Carried.of_bind (fun first rest outcome _ => agentStage_yields
    (fun answer => ⟨.start, answer⟩) Prog.yields_request.1 fun _ => ⟨trivial, id⟩)
    (fun first rest same watch => ?_) finish
  subst same
  obtain ⟨_, _, along⟩ := Conduct.along_append.1 along
  refine Carried.of_bind (fun first rest outcome same watching => ?_)
    (fun first rest _ scripts => .last (runScript_comes scripts)) watch
  subst same
  obtain ⟨_, along, _⟩ := Conduct.along_append.1 along
  exact watchStage_comes positive watching along

end Carried

/-- What stopping or starting a deployment comes to, for the duties that its instance then has. Only
after the agent has answered a ping is it called for anything else. -/
structure DrivesGuest (deployment : Deployment) (settings : Settings) (duties : List Duty)
    (trace : List (Event signature)) (left : Deployment) (result : Except LifecycleError Unit) :
    Prop where
  kept : left = deployment
  apart : ∀ event ∈ trace, ¬ event.request.IsCloud ∧ ¬ event.request.IsStore
  absent : deployment.vmInstance = none → trace = [] ∧ result = .ok ()
  gated : ∀ target, deployment.vmInstance = some target → ∃ started gate ended reachable rest,
    trace = target.gateStage settings.ping started gate ended reachable ++ rest ∧
    Gate reachable gate ∧
    (reachable = false → rest = [] ∧ result = .ok ()) ∧
    (reachable = true → (∀ event ∈ rest, ¬ event.request.IsPing) ∧
      Carried target duties rest result ∧ CallsFor duties rest result)

section Calls

variable {deployment left : Deployment} {settings : Settings} {target : Instance}
  {duties : List Duty} {trace : List (Event signature)} {result : Except LifecycleError Unit}

/-- Work in the VM waits for the agent, and is left out if that does not answer. -/
theorem gated_yields {work : Program Unit}
    (run : (target.awaitAgent settings.ping >>= fun reachable =>
      if reachable then work else pure ()).run.Yields trace result) :
    ∃ started gate ended reachable rest,
      trace = target.gateStage settings.ping started gate ended reachable ++ rest ∧
      Gate reachable gate ∧ (reachable = false → rest = [] ∧ result = .ok ()) ∧
      (reachable = true → work.run.Yields rest result) := by
  rcases Prog.yields_exceptBind.1 run with
    ⟨error, rfl, failing⟩ | ⟨reachable, _, rest, rfl, waiting, working⟩
  · obtain ⟨_, _, _, _, _, _, failed⟩ := awaitAgent_trace failing
    cases failed
  · obtain ⟨started, gate, ended, _, rfl, pinging, same⟩ := awaitAgent_trace waiting
    cases same
    refine ⟨started, gate, ended, reachable, rest, rfl, isReachable_gate pinging, ?_, ?_⟩
    · rintro rfl
      exact working
    · rintro rfl
      exact working

theorem apart_of_quiet (request : Request) (quiet : request.IsQuiet) :
    ¬ request.IsCloud ∧ ¬ request.IsStore := by
  cases request <;> first | exact quiet.elim | exact ⟨id, id⟩

theorem apart_of_guest (request : Request) (guest : request.IsGuest) :
    ¬ request.IsCloud ∧ ¬ request.IsStore := by
  cases request <;> first | exact guest.1.elim | exact ⟨id, id⟩

theorem not_ping_of_quiet (request : Request) (quiet : request.IsQuiet) : ¬ request.IsPing := by
  cases request <;> first | exact quiet.elim | exact id

theorem yields_beside {program : Program Unit}
    (run : (do return (deployment, ← program.run)
      : Prog signature (Deployment × Except LifecycleError Unit)).Yields trace (left, result)) :
    left = deployment ∧ program.run.Yields trace result := by
  obtain ⟨_, _, _, rfl, running, rfl, same⟩ := Prog.yields_bind.1 run
  cases same
  rw [List.append_nil]
  exact ⟨rfl, running⟩

theorem stop_drives {skipDrain : Bool}
    (run : (deployment.stop settings skipDrain).run.Yields trace result) :
    DrivesGuest deployment settings (stopDuties skipDrain) trace deployment result := by
  obtain ⟨vmInstance, disk, stemcell⟩ := deployment
  cases vmInstance with
  | none =>
      obtain ⟨rfl, rfl⟩ := run
      exact ⟨rfl, List.forall_mem_nil _, fun _ => ⟨rfl, rfl⟩, nofun⟩
  | some target =>
      have asks := Instance.stop_asks apart_of_quiet apart_of_guest (fun _ => ⟨id, id⟩) target
        settings skipDrain
      refine ⟨rfl, asks.trace run, nofun, fun _ same => ?_⟩
      cases same
      obtain ⟨started, gate, ended, reachable, rest, rfl, pinged, idle, working⟩ :=
        gated_yields run
      have pings := stopJobs_asks not_ping_of_quiet (fun _ guest => guest.2) target skipDrain
      refine ⟨started, gate, ended, reachable, rest, rfl, pinged, idle, fun answered => ?_⟩
      have carried := stopJobs_carried (working answered)
      exact ⟨pings.trace (working answered), carried, carried.calls⟩

theorem start_drives {update : UpdatePolicy} {start after : Duration}
    (positive : 0 < update.pollInterval.nanos)
    (run : (deployment.start settings update).run.Yields trace result)
    (along : clock.Along start trace after) :
    DrivesGuest deployment settings (startDuties update) trace deployment result := by
  obtain ⟨vmInstance, disk, stemcell⟩ := deployment
  cases vmInstance with
  | none =>
      obtain ⟨rfl, rfl⟩ := run
      exact ⟨rfl, List.forall_mem_nil _, fun _ => ⟨rfl, rfl⟩, nofun⟩
  | some target =>
      have asks := Instance.start_asks apart_of_quiet apart_of_guest (fun _ => ⟨id, id⟩) target
        settings update
      refine ⟨rfl, asks.trace run, nofun, fun _ same => ?_⟩
      cases same
      obtain ⟨started, gate, ended, reachable, rest, rfl, pinged, idle, working⟩ :=
        gated_yields run
      obtain ⟨_, _, along⟩ := Conduct.along_append.1 along
      have pings := startJobs_asks not_ping_of_quiet (fun _ guest => guest.2) target update
      refine ⟨started, gate, ended, reachable, rest, rfl, pinged, idle, fun answered => ?_⟩
      have carried := startJobs_carried positive (working answered) along
      exact ⟨pings.trace (working answered), carried, carried.calls⟩

theorem DrivesGuest.document {stored after : Option Document}
    (drives : DrivesGuest deployment settings duties trace left result)
    (along : surroundings.Along stored trace after) : after = stored := by
  have aside : ∀ event ∈ trace, event.request.IsAside := by
    rintro ⟨request, answer⟩ member
    obtain ⟨notCloud, notStore⟩ := drives.apart _ member
    cases request <;>
      first | trivial | exact (notStore trivial).elim | exact (notCloud trivial).elim
  exact eq_of_along_aside aside along

/-- Stopping and starting come to an end, whoever answers and whatever time that takes, if the clock
has a reading for each deadline. They drive nothing but what runs in the VM, and leave what is kept
and what is stored. -/
theorem stop_and_start_drive_guest :
    (∀ (call : Call) (timing : Timing) start, ∃ trace left result after past,
      (call.program settings deployment).Yields trace (left, result) ∧
        timing.conduct.Along (start, []) trace (after, past) ∧ clock.Along start trace after) ∧
    (∀ skipDrain trace left result,
      ((Call.stop skipDrain).program settings deployment).Yields trace (left, result) →
        DrivesGuest deployment settings (stopDuties skipDrain) trace left result ∧
        ∀ stored after, surroundings.Along stored trace after → after = stored) ∧
    (∀ update, 0 < update.pollInterval.nanos → ∀ trace left result start ended,
      ((Call.start update).program settings deployment).Yields trace (left, result) →
      clock.Along start trace ended →
        DrivesGuest deployment settings (startDuties update) trace left result ∧
        ∀ stored after, surroundings.Along stored trace after → after = stored) := by
  refine ⟨?_, ?_, ?_⟩
  · intro call timing start
    obtain ⟨trace, ⟨left, result⟩, after, past, run, along⟩ :=
      timing.exists_run (call.program settings deployment) start
    exact ⟨trace, left, result, after, past, run, along, Timing.along_clock along⟩
  · intro skipDrain trace left result run
    obtain ⟨rfl, stopping⟩ := yields_beside run
    have drives := stop_drives stopping
    exact ⟨drives, fun _ _ => drives.document⟩
  · intro update positive trace left result start ended run along
    obtain ⟨rfl, starting⟩ := yields_beside run
    have drives := start_drives positive starting along
    exact ⟨drives, fun _ _ => drives.document⟩

/-- The instance runs, but the scripts after that fail. -/
theorem post_start_scripts_fail : ∃ (deployment : Deployment) (settings : Settings)
    (update : UpdatePolicy) (trace : List (Event signature)) (error : AgentError),
    0 < update.pollInterval.nanos ∧
    ((Call.start update).program settings deployment).Yields trace
      (deployment, .error (.agent error)) ∧
    clock.Along .zero trace .zero ∧
    DrivesGuest deployment settings (startDuties update) trace deployment
      (.error (.agent error)) ∧
    guestRequests trace =
      [.runScript "pre-start" [], .start, .getState, .runScript "post-start" []] := by
  let update : UpdatePolicy := ⟨⟨.zero, ⟨5⟩⟩, ⟨1⟩⟩
  let target : Instance := ⟨{}, ⟨"vm-1"⟩⟩
  let deployment : Deployment := { vmInstance := some target }
  let error : AgentError := .exception "run_script" "exit code 1"
  let stage (label : String) (event : Event signature) (outcome : Outcome) :
      List (Event signature) :=
    [⟨.stageBegun label, ()⟩, ⟨.now, .zero⟩, event, ⟨.now, .zero⟩,
      ⟨.stageEnded label outcome .zero, ()⟩]
  let running : String := "Waiting for instance '" ++ target.name.label ++ "' to be running"
  let trace : List (Event signature) :=
    target.gateStage .standard .zero [⟨.now, .zero⟩, ⟨.now, .zero⟩,
      ⟨.ping PingPolicy.standard.timeout, .answered "pong"⟩] .zero true ++
    stage (target.labelled "Running the pre-start scripts") ⟨.runScript "pre-start" [], .ok ()⟩
      .done ++
    stage (target.labelled "Starting the agent") ⟨.start, .ok ()⟩ .done ++
    [⟨.stageBegun running, ()⟩, ⟨.now, .zero⟩, ⟨.now, .zero⟩,
      ⟨.getState, .ok { jobState := "running" }⟩, ⟨.now, .zero⟩,
      ⟨.stageEnded running .done .zero, ()⟩] ++
    stage (target.labelled "Running the post-start scripts")
      ⟨.runScript "post-start" [], .error error⟩ (.failed (.agent error))
  have run : ((Call.start update).program {} deployment).Yields trace
      (deployment, .error (.agent error)) := by
    repeat refine ⟨_, _, rfl, ?_⟩
    exact ⟨rfl, rfl⟩
  have along : clock.Along .zero trace .zero := by
    refine clock_of_idle ?_
    repeat refine ⟨.zero, ⟨rfl, by first | exact rfl | trivial⟩, ?_⟩
    rfl
  have positive : 0 < update.pollInterval.nanos := by decide
  obtain ⟨_, _, starts⟩ := @stop_and_start_drive_guest deployment {}
  obtain ⟨drives, _⟩ := starts update positive trace _ _ _ _ run along
  exact ⟨deployment, {}, update, trace, error, positive, run, along, drives, rfl⟩

end Calls

end DeploymentLifecycle.Lifecycle
