import DeploymentLifecycle.Proofs.Lifecycle.Rounds
import DeploymentLifecycle.Proofs.Lifecycle.Stages

namespace DeploymentLifecycle.Lifecycle

/-! What the watch of a started instance comes to, by its looks at the instance and what they
show. -/

/-- A look at the instance. After one that has not found it running the clock is looked at, and
shows `ended`. -/
inductive Looked where
  | found (state : AgentState)
  | missed (reply : Except AgentError AgentState) (ended : Duration)

namespace Looked

def events : Looked → List (Event signature)
  | .found state => [⟨.getState, .ok state⟩]
  | .missed reply ended => [⟨.getState, reply⟩, ⟨.now, ended⟩]

/-- The state of the jobs that the look showed; an error shows none. -/
def jobState? : Looked → Option String
  | .found state | .missed (.ok state) _ => some state.jobState
  | .missed (.error _) _ => none

def ShowsRunning (look : Looked) : Prop := look.jobState? = some "running"

/-- The instance is found exactly by the looks that show it running. -/
def Fits : Looked → Prop
  | .found state => (found state).ShowsRunning
  | .missed reply ended => ¬ (missed reply ended).ShowsRunning

def MissedBefore (deadline : Duration) : Looked → Prop
  | .found _ => False
  | .missed _ ended => ended < deadline

end Looked

section Rounds

variable {deadline interval : Duration} {policy : UpdatePolicy} {name : InstanceName}
  {seen : Option String} {polled trace : List (Event signature)}
  {result : Except LifecycleError Unit}

theorem isRunning_iff {state : AgentState} :
    state.isRunning = true ↔ some state.jobState = some "running" :=
  beq_iff_eq.trans Option.some_inj.symm

theorem lookOnce_settled (run : (lookOnce seen).Yields polled (.inl result)) :
    ∃ state, polled = (Looked.found state).events ∧ (Looked.found state).Fits ∧
      result = .ok () := by
  obtain ⟨answer, _, rfl, settled⟩ := run
  cases answer with
  | error error => cases settled.2
  | ok state =>
      obtain ⟨rfl, same⟩ := settled
      by_cases running : state.isRunning
      · rw [if_pos running] at same
        exact ⟨state, rfl, isRunning_iff.1 running, Sum.inl.inj same⟩
      · rw [if_neg running] at same
        cases same

theorem lookOnce_missed {next : Option String} (run : (lookOnce seen).Yields polled (.inr next)) :
    ∃ reply, polled = [⟨.getState, reply⟩] ∧ ∀ ended, (Looked.missed reply ended).Fits ∧
      next = (Looked.missed reply ended).jobState?.or seen := by
  obtain ⟨answer, _, rfl, missed⟩ := run
  cases answer with
  | error error =>
      obtain ⟨rfl, same⟩ := missed
      exact ⟨.error error, rfl, fun ended => ⟨nofun, Sum.inr.inj same⟩⟩
  | ok state =>
      obtain ⟨rfl, same⟩ := missed
      by_cases running : state.isRunning
      · rw [if_pos running] at same
        cases same
      · rw [if_neg running] at same
        exact ⟨.ok state, rfl, fun ended => ⟨mt isRunning_iff.2 running, Sum.inr.inj same⟩⟩

/-- What was seen last, by the looks of a watch and what had been seen before. -/
def lastSeen (looks : List Looked) (seen : Option String) : Option String :=
  (looks.filterMap Looked.jobState?).getLast?.or seen

theorem lastSeen_cons {look : Looked} {looks : List Looked} :
    lastSeen (look :: looks) seen = lastSeen looks (look.jobState?.or seen) := by
  rw [lastSeen, lastSeen]
  cases shown : look.jobState? with
  | none => simp [shown]
  | some state =>
      cases later : (looks.filterMap Looked.jobState?).getLast? <;>
        simp [shown, later, List.getLast?_cons]

theorem watchLog_of_rounds (rounds : Rounds deadline interval lookOnce
      (fun seen => .error (watchUntil.expired policy name seen)) seen trace result) :
    ∃ looks : List Looked, PollLog interval Looked.events (Looked.MissedBefore deadline)
        Looked.ShowsRunning looks trace (result = .ok ()) ∧ (∀ look ∈ looks, look.Fits) ∧
      (result = .ok () ∨
        result = .error (watchUntil.expired policy name (lastSeen looks seen))) := by
  induction rounds with
  | settled polling =>
      obtain ⟨state, rfl, fits, rfl⟩ := lookOnce_settled polling
      exact ⟨[.found state], .last id (iff_of_true rfl fits), List.forall_mem_singleton.2 fits,
        .inl rfl⟩
  | @lapsed _ _ _ ended polling late =>
      obtain ⟨reply, rfl, missed⟩ := lookOnce_missed polling
      obtain ⟨fits, rfl⟩ := missed ended
      refine ⟨[.missed reply ended], .last (Nat.not_lt.2 late) (iff_of_false nofun fits),
        List.forall_mem_singleton.2 fits, .inr ?_⟩
      rw [lastSeen_cons]
      rfl
  | @again _ _ _ _ ended _ polling early _ ih =>
      obtain ⟨reply, rfl, missed⟩ := lookOnce_missed polling
      obtain ⟨fits, rfl⟩ := missed ended
      obtain ⟨looks, log, allFit, ending⟩ := ih
      have goes : (Looked.missed reply ended).MissedBefore deadline := Nat.lt_of_not_le early
      exact ⟨.missed reply ended :: looks, log.next goes fits,
        List.forall_mem_cons.2 ⟨fits, allFit⟩, lastSeen_cons ▸ ending⟩

theorem untilRunning_rounds {start after : Duration} (positive : 0 < policy.pollInterval.nanos)
    (run : (untilRunning policy name).run.Yields trace result)
    (along : clock.Along start trace after) :
    ∃ (begun : Duration) (rest : List (Event signature)),
      trace = opening policy.watch.opens ++ ⟨.now, begun⟩ :: rest ∧
      start + policy.watch.opens ≤ begun ∧
      Rounds (begun + policy.watch.window) policy.pollInterval lookOnce
        (fun seen => .error (watchUntil.expired policy name seen)) none rest result := by
  change (runningWithin policy name _).run.Yields trace result at run
  rw [congrFun runningWithin_eq] at run
  exact rounds_of_pollFor positive (polls_le_rounds positive) run along

end Rounds

def IsPostStart : Request → Prop
  | .runScript name _ => name = "post-start"
  | _ => False

/-- The request is made neither for a watch nor after it. -/
def IsUnwatched (request : Request) : Prop := ¬ IsLook request ∧ ¬ IsPostStart request

/-- What a start comes to. If the instance is watched at all, it is watched once, and its last
scripts are run exactly if it was found running. -/
inductive StartRun (target : Instance) (update : UpdatePolicy) :
    List (Event signature) → Except LifecycleError Unit → Prop
  | unwatched {trace : List (Event signature)} {result : Except LifecycleError Unit}
      (free : ∀ event ∈ trace, IsUnwatched event.request) : StartRun target update trace result
  | watched {first watch rest : List (Event signature)}
      {verdict result : Except LifecycleError Unit}
      (before : ∀ event ∈ first, IsUnwatched event.request)
      (watching : (untilRunning update target.name).run.Yields watch verdict)
      (behind : ∀ event ∈ rest, ¬ IsLook event.request)
      (scripts : (∃ event ∈ rest, IsPostStart event.request) ↔ verdict = .ok ())
      (fails : ∀ error, verdict = .error error → result = .error error) :
      StartRun target update (first ++ watch ++ rest) result

section Start

variable {α : Type} {target : Instance} {settings : Settings} {update : UpdatePolicy}
  {first rest trace : List (Event signature)} {result : Except LifecycleError Unit}

theorem StartRun.after (free : ∀ event ∈ first, IsUnwatched event.request)
    (start : StartRun target update rest result) :
    StartRun target update (first ++ rest) result := by
  cases start with
  | unwatched later => exact .unwatched (List.forall_mem_append.2 ⟨free, later⟩)
  | watched before watching behind scripts fails =>
      rw [← List.append_assoc, ← List.append_assoc]
      exact .watched (List.forall_mem_append.2 ⟨free, before⟩) watching behind scripts fails

theorem startRun_bind {program : Program α} {next : α → Program Unit}
    (free : program.run.Asks IsUnwatched)
    (onward : ∀ value trace result, (next value).run.Yields trace result →
      StartRun target update trace result)
    (run : (program >>= next).run.Yields trace result) : StartRun target update trace result := by
  rcases Prog.yields_exceptBind.1 run with
    ⟨error, rfl, failing⟩ | ⟨value, first, rest, rfl, start, finish⟩
  · exact .unwatched (free.trace failing)
  · exact (onward value rest result finish).after (free.trace start)

theorem unwatched_of_quiet {request : Request} (quiet : request.IsQuiet) : IsUnwatched request := by
  cases request <;> first | exact quiet.elim | exact ⟨id, id⟩

theorem runScript_called {name : String} (run : (target.runScript name).run.Yields trace result) :
    ∃ event ∈ trace, event.request = .runScript name [] := by
  have follows := Instance.runScript_guided trace result run
  have member : ∀ event ∈ guestCalls trace, event ∈ trace := fun event => List.mem_of_mem_filter
  cases result with
  | ok value =>
      have calls : guestCalls trace = [⟨.runScript name [], .ok ()⟩] := follows
      exact ⟨⟨.runScript name [], .ok ()⟩, member _ (by simp [calls]), rfl⟩
  | error error =>
      obtain ⟨done, failed, intended, left, plan, same, calls⟩ := follows
      obtain ⟨rfl, rfl, rfl⟩ : done = [] ∧ intended = ⟨.runScript name [], .ok ()⟩ ∧ left = [] := by
        cases done <;> simp_all
      exact ⟨failed, member _ (by simp [calls]), same⟩

theorem watchStage_yields {label : String}
    (run : (perform label do
      untilRunning update target.name
      return .done).run.Yields trace result) :
    ∃ opening watch closing, trace = opening ++ watch ++ closing ∧
      (∀ event ∈ opening, event.request.IsQuiet) ∧ (∀ event ∈ closing, event.request.IsQuiet) ∧
      (untilRunning update target.name).run.Yields watch result := by
  obtain ⟨opening, middle, closing, outcome, rfl, opens, closes, worked, rfl⟩ := perform_yields run
  refine ⟨opening, middle, closing, rfl, opens, closes, ?_⟩
  rcases Prog.yields_exceptBind.1 worked with
    ⟨error, rfl, failing⟩ | ⟨_, _, _, rfl, watching, rfl, rfl⟩
  · exact failing
  · rwa [List.append_nil]

theorem watchStage_startRun {label : String}
    (run : (perform label (do
        untilRunning update target.name
        return .done) >>= fun _ => target.runScript "post-start").run.Yields trace result) :
    StartRun target update trace result := by
  have notLook : ∀ {events : List (Event signature)}, (∀ event ∈ events, event.request.IsQuiet) →
      ∀ event ∈ events, ¬ IsLook event.request :=
    fun quiet event member => (unwatched_of_quiet (quiet event member)).1
  rcases Prog.yields_exceptBind.1 run with
    ⟨error, rfl, failing⟩ | ⟨_, first, rest, rfl, start, finish⟩
  · obtain ⟨opening, watch, closing, rfl, opens, closes, watching⟩ := watchStage_yields failing
    refine .watched (fun event member => unwatched_of_quiet (opens event member)) watching
      (notLook closes) (iff_of_false ?_ nofun) fun _ same => same
    intro found
    obtain ⟨event, member, scripts⟩ := found
    exact (unwatched_of_quiet (closes event member)).2 scripts
  · -- The stage has ended well only if the watch has, and the scripts are then always called.
    obtain ⟨opening, watch, closing, rfl, opens, closes, watching⟩ := watchStage_yields start
    have scripts : (target.runScript "post-start").run.Asks fun request => ¬ IsLook request :=
      agentStage_asks (fun _ quiet => (unwatched_of_quiet quiet).1) (asks_ask.2 id)
    obtain ⟨event, member, called⟩ := runScript_called finish
    have postStart : IsPostStart event.request := by
      rw [called]
      rfl
    rw [List.append_assoc]
    exact .watched (fun event member => unwatched_of_quiet (opens event member)) watching
      (List.forall_mem_append.2 ⟨notLook closes, scripts.trace finish⟩)
      (iff_of_true ⟨event, List.mem_append_right _ member, postStart⟩ rfl) nofun

theorem Instance.start_startRun (run : (target.start settings update).run.Yields trace result) :
    StartRun target update trace result := by
  have quiet : ∀ request : Request, request.IsQuiet → IsUnwatched request :=
    fun _ => unwatched_of_quiet
  have gate := awaitAgent_asks quiet (fun _ => ⟨id, id⟩) target settings.ping
  have preStart : (target.runScript "pre-start").run.Asks IsUnwatched :=
    agentStage_asks quiet (asks_ask.2 ⟨id, by simp [IsPostStart]⟩)
  have starting : (agentStage (target.labelled "Starting the agent") (ask .start)).run.Asks
      IsUnwatched := agentStage_asks quiet (asks_ask.2 ⟨id, id⟩)
  refine startRun_bind gate (fun reachable trace result run => ?_) run
  cases reachable with
  | false =>
      obtain ⟨rfl, rfl⟩ := run
      exact .unwatched (List.forall_mem_nil _)
  | true =>
      refine startRun_bind preStart (fun _ _ _ run => ?_) run
      exact startRun_bind starting (fun _ _ _ run => watchStage_startRun run) run

end Start

/-- The verdict on a started instance, where the clock has a reading for the end of the window.
Whatever its state is said to be and whatever time that takes, the watch ends. It pauses until the
window opens, and has then done nothing but looks and the pauses between them. It ends well exactly
if a look showed the instance running and all before were over before the window closed; otherwise
the error names what was seen last. A start runs its last scripts exactly if the watch ended
well. -/
theorem running_iff_seen_in_time {policy : UpdatePolicy}
    (positive : 0 < policy.pollInterval.nanos) :
    (∀ name (timing : Timing) start, ∃ trace result after past,
      (untilRunning policy name).run.Yields trace result ∧
        timing.conduct.Along (start, []) trace (after, past) ∧ clock.Along start trace after) ∧
    (∀ name trace result start after, (untilRunning policy name).run.Yields trace result →
      clock.Along start trace after → ∃ (begun : Duration) (looks : List Looked)
        (rest : List (Event signature)),
        trace = opening policy.watch.opens ++ ⟨.now, begun⟩ :: rest ∧
        start + policy.watch.opens ≤ begun ∧
        PollLog policy.pollInterval Looked.events
          (Looked.MissedBefore (begun + policy.watch.window)) Looked.ShowsRunning looks rest
          (result = .ok ()) ∧
        (∀ look ∈ looks, look.Fits) ∧
        (result ≠ .ok () → result = .error (.notRunning name.label policy.watch.closes
          ((looks.filterMap Looked.jobState?).getLast?.getD "unknown")))) ∧
    (∀ (deployment : Deployment) settings trace result,
      (deployment.start settings policy).run.Yields trace result →
        (deployment.vmInstance = none ∧ trace = []) ∨ ∃ target,
          deployment.vmInstance = some target ∧ StartRun target policy trace result) := by
  refine ⟨?_, ?_, ?_⟩
  · intro name timing start
    obtain ⟨trace, result, after, past, run, along⟩ :=
      timing.exists_run (untilRunning policy name).run start
    exact ⟨trace, result, after, past, run, along, Timing.along_clock along⟩
  · intro name trace result start after run along
    obtain ⟨begun, rest, rfl, passed, rounds⟩ := untilRunning_rounds positive run along
    obtain ⟨looks, log, fit, ending⟩ := watchLog_of_rounds rounds
    refine ⟨begun, looks, rest, rfl, passed, log, fit, fun failed => ?_⟩
    rw [ending.resolve_left failed, watchUntil.expired, lastSeen, Option.or_none]
  · intro deployment settings trace result run
    obtain ⟨vmInstance, disk, stemcell⟩ := deployment
    cases vmInstance with
    | none => exact .inl ⟨rfl, run.1⟩
    | some target => exact .inr ⟨target, rfl, Instance.start_startRun run⟩

/-- The second look is over when the window closes, and fails, so that the first one is told of. -/
theorem starting_seen_last : ∃ policy name trace after error, 0 < policy.pollInterval.nanos ∧
    (untilRunning policy name).run.Yields trace (.error error) ∧ clock.Along .zero trace after ∧
    ∃ (looks : List Looked) (rest : List (Event signature)),
      trace = opening policy.watch.opens ++ ⟨.now, policy.watch.opens⟩ :: rest ∧
      PollLog policy.pollInterval Looked.events
        (Looked.MissedBefore (policy.watch.opens + policy.watch.window)) Looked.ShowsRunning looks
        rest (Except.error error = .ok ()) ∧
      (∀ look ∈ looks, look.Fits) ∧
      (looks.filterMap Looked.jobState?).getLast?.getD "unknown" = "starting" ∧
      error = .notRunning name.label policy.watch.closes "starting" := by
  let policy : UpdatePolicy := ⟨⟨⟨2⟩, ⟨5⟩⟩, ⟨3⟩⟩
  let name : InstanceName := {}
  let state : AgentState := { jobState := "starting" }
  let error : LifecycleError := .notRunning name.label ⟨5⟩ "starting"
  let trace : List (Event signature) := [⟨.sleep ⟨2⟩, ()⟩, ⟨.now, ⟨2⟩⟩, ⟨.getState, .ok state⟩,
    ⟨.now, ⟨2⟩⟩, ⟨.sleep ⟨3⟩, ()⟩, ⟨.getState, .error (.timeout "get_state" .zero)⟩, ⟨.now, ⟨5⟩⟩]
  have run : (untilRunning policy name).run.Yields trace (.error error) := by
    repeat refine ⟨_, _, rfl, ?_⟩
    exact ⟨rfl, rfl⟩
  have along : clock.Along .zero trace ⟨5⟩ := by
    refine ⟨⟨2⟩, ⟨?_, trivial⟩, ⟨2⟩, ⟨?_, rfl⟩, ⟨2⟩, ⟨?_, trivial⟩, ⟨2⟩, ⟨?_, rfl⟩, ⟨5⟩,
      ⟨?_, trivial⟩, ⟨5⟩, ⟨?_, trivial⟩, ⟨5⟩, ⟨?_, rfl⟩, rfl⟩ <;> decide
  have positive : 0 < policy.pollInterval.nanos := by decide
  obtain ⟨_, verdict, _⟩ := running_iff_seen_in_time positive
  obtain ⟨begun, looks, rest, same, _, log, fit, fails⟩ :=
    verdict name trace (.error error) .zero ⟨5⟩ run along
  obtain ⟨_, same⟩ := List.cons.inj same
  obtain ⟨look, rfl⟩ := List.cons.inj same
  cases look
  have seen := fails nofun
  simp only [error, Except.error.injEq, LifecycleError.notRunning.injEq] at seen
  exact ⟨policy, name, trace, ⟨5⟩, error, positive, run, along, looks, _, rfl, log, fit,
    seen.2.2.symm, rfl⟩

end DeploymentLifecycle.Lifecycle
