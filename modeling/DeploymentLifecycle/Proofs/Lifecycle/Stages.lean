import DeploymentLifecycle.Proofs.Lifecycle.Failure

namespace DeploymentLifecycle.Lifecycle

/-! Which calls the parts of a deletion make of the agent, and in which order. -/

variable {α : Type} {trace first rest : List (Event signature)} {label : String}

instance (event : Event signature) : Decidable (Request.IsGuest event.request) :=
  (inferInstance : DecidablePred Request.IsGuest) event.request

/-- The calls that are made of an agent after it has answered a ping. -/
def guestCalls (trace : List (Event signature)) : List (Event signature) :=
  trace.filter fun event => event.request.IsGuest

@[simp]
theorem guestCalls_append : guestCalls (first ++ rest) = guestCalls first ++ guestCalls rest :=
  List.filter_append first rest

theorem guestCalls_cons {event : Event signature} (guest : Request.IsGuest event.request) :
    guestCalls (event :: rest) = event :: guestCalls rest := by
  simp [guestCalls, guest]

theorem guestCalls_cons_of_not {event : Event signature} (other : ¬ Request.IsGuest event.request) :
    guestCalls (event :: rest) = guestCalls rest := by
  simp [guestCalls, other]

theorem guestCalls_eq_nil (free : ∀ event ∈ trace, ¬ event.request.IsGuest) :
    guestCalls trace = [] :=
  List.filter_eq_nil_iff.2 fun event member => by simpa using free event member

theorem not_guest_of_quiet {request : Request} (quiet : request.IsQuiet) : ¬ request.IsGuest := by
  cases request <;> first | exact quiet.elim | exact fun guest => guest.1

theorem yields_ask_bind {request : Request} {next : Answer request → Prog signature α}
    {result : α} :
    (ask request >>= next).Yields trace result ↔
      ∃ answer rest, trace = ⟨request, answer⟩ :: rest ∧ (next answer).Yields rest result := Iff.rfl

theorem mapError_yields {ε : Type} {call : Prog signature (Except ε α)}
    {convert : ε → LifecycleError} {result : Except LifecycleError α}
    (run : (ExceptT.mk do return (← call).mapError convert : Program α).run.Yields trace result) :
    ∃ answer, call.Yields trace answer ∧ result = answer.mapError convert := by
  obtain ⟨answer, first, _, rfl, called, rfl, rfl⟩ := Prog.yields_bind.1 run
  exact ⟨answer, by simpa using called, rfl⟩

theorem quiet_pair {opening closing : Event signature} (opens : opening.request.IsQuiet)
    (closes : closing.request.IsQuiet) : ∀ event ∈ [opening, closing], event.request.IsQuiet :=
  List.forall_mem_cons.2 ⟨opens, List.forall_mem_singleton.2 closes⟩

/-- How a stage ends whose work comes to this. -/
def Outcome.ofResult : Except LifecycleError Step → Outcome
  | .ok step => step.outcome
  | .error error => .failed error

theorem perform_trace {work : Program Step} {result : Except LifecycleError Unit}
    (run : (perform label work).run.Yields trace result) :
    ∃ (started : Duration) (middle : List (Event signature)) (ended : Duration)
      (outcome : Except LifecycleError Step),
      trace = ⟨.stageBegun label, ()⟩ :: ⟨.now, started⟩ :: (middle ++
        [⟨.now, ended⟩, ⟨.stageEnded label (.ofResult outcome) (ended - started), ()⟩]) ∧
      work.run.Yields middle outcome ∧ result = outcome.map fun _ => () := by
  obtain ⟨_, _, rfl, begun⟩ := yields_ask_bind.1 run
  obtain ⟨started, _, rfl, within⟩ := yields_ask_bind.1 begun
  obtain ⟨outcome, middle, _, rfl, worked, ending⟩ := Prog.yields_bind.1 within
  obtain ⟨ended, _, rfl, last⟩ := yields_ask_bind.1 ending
  refine ⟨started, middle, ended, outcome, ?_, worked, ?_⟩
  all_goals
    cases outcome with
    | ok step =>
        obtain ⟨_, _, rfl, rfl, rfl⟩ := last
        rfl
    | error error =>
        obtain ⟨_, _, rfl, rfl, rfl⟩ := last
        rfl

theorem perform_yields {work : Program Step} {result : Except LifecycleError Unit}
    (run : (perform label work).run.Yields trace result) : ∃ opening middle closing outcome,
      trace = opening ++ middle ++ closing ∧ (∀ event ∈ opening, event.request.IsQuiet) ∧
      (∀ event ∈ closing, event.request.IsQuiet) ∧ work.run.Yields middle outcome ∧
      result = outcome.map fun _ => () := by
  obtain ⟨started, middle, ended, outcome, rfl, worked, same⟩ := perform_trace run
  exact ⟨[_, _], middle, [_, _], outcome, rfl, quiet_pair (by trivial) (by trivial),
    quiet_pair (by trivial) (by trivial), worked, same⟩

def Step.ofDeletion (reason : String) : Deletion → Step
  | .deleted => .done
  | .notFound => .skipped reason

/-- How a deletion goes on after the provider's answer, and what it comes to. -/
inductive Recording (program : Store.Program Unit) (reason : String) :
    Except CloudError Deletion → List (Event signature) → Except LifecycleError Step → Prop
  | refused (error : CloudError) :
      Recording program reason (.error error) [] (.error (.cloud error))
  | recorded (deletion : Deletion) {trace : List (Event signature)}
      (runs : (stored program).run.Yields trace (.ok ())) :
      Recording program reason (.ok deletion) trace (.ok (.ofDeletion reason deletion))
  | unrecorded (deletion : Deletion) {trace : List (Event signature)} {error : LifecycleError}
      (runs : (stored program).run.Yields trace (.error error)) :
      Recording program reason (.ok deletion) trace (.error error)

/-- A stage in which the provider is asked to delete a resource, and its answer is recorded. -/
inductive DeletionStage {resource : Resource} (cid : Cid resource) (program : Store.Program Unit) :
    List (Event signature) → Except LifecycleError Unit → Prop
  | told (label reason : String) (started : Duration) {answer : Except CloudError Deletion}
      {recorded : List (Event signature)} (ended : Duration) {outcome : Except LifecycleError Step}
      (recording : Recording program reason answer recorded outcome) :
      DeletionStage cid program
        (⟨.stageBegun label, ()⟩ :: ⟨.now, started⟩ :: ⟨.delete resource cid, answer⟩ ::
          (recorded ++ [⟨.now, ended⟩,
            ⟨.stageEnded label (.ofResult outcome) (ended - started), ()⟩]))
        (outcome.map fun _ => ())

theorem deletionStage_of_yields {resource : Resource} {cid : Cid resource}
    {program : Store.Program Unit} {next : Deletion → Program Step}
    {result : Except LifecycleError Unit} (reason : String)
    (ends : ∀ deletion, next deletion = pure (.ofDeletion reason deletion))
    (run : (perform label (cloudCall (ask (.delete resource cid)) >>= fun deletion => do
      stored program
      next deletion)).run.Yields trace result) : DeletionStage cid program trace result := by
  obtain ⟨started, middle, ended, outcome, rfl, worked, rfl⟩ := perform_trace run
  rcases Prog.yields_exceptBind.1 worked with
    ⟨error, rfl, failing⟩ | ⟨deletion, _, recorded, rfl, deleting, finish⟩
  · obtain ⟨answer, asked, failed⟩ := mapError_yields failing
    obtain rfl := Prog.yields_request.1 asked
    cases answer with
    | ok _ => cases failed
    | error refusal =>
        cases failed
        exact .told label reason started ended (.refused refusal)
  · obtain ⟨answer, asked, succeeded⟩ := mapError_yields deleting
    obtain rfl := Prog.yields_request.1 asked
    cases answer with
    | error refusal => cases succeeded
    | ok _ =>
        cases succeeded
        rcases Prog.yields_exceptBind.1 finish with
          ⟨error, rfl, failing⟩ | ⟨_, _, _, rfl, recording, ending⟩
        · exact .told label reason started ended (.unrecorded deletion failing)
        · rw [ends] at ending
          obtain ⟨rfl, rfl⟩ := ending
          rw [List.append_nil]
          exact .told label reason started ended (.recorded deletion recording)

theorem Instance.deleteVm_stage {target : Instance} {result : Except LifecycleError Unit}
    (run : target.deleteVm.run.Yields trace result) :
    DeletionStage target.vm CurrentVm.clear trace result :=
  deletionStage_of_yields ("VM '" ++ target.vm.text ++ "' not found")
    (fun deletion => by cases deletion <;> rfl) run

theorem release_stage {kind : Kind} {record : Record kind} {result : Except LifecycleError Unit}
    (run : (release label record).run.Yields trace result) :
    DeletionStage record.cid (Records.delete record.id) trace result :=
  deletionStage_of_yields (kind.name ++ " '" ++ record.cid.text ++ "' not found")
    (fun deletion => by cases deletion <;> rfl) run

def IsAnsweredPing : Event signature → Prop
  | ⟨.ping _, .answered _⟩ => True
  | _ => False

/-- The events in which an agent is waited for, and whether it answered. -/
structure Gate (reachable : Bool) (trace : List (Event signature)) : Prop where
  calls : ∀ event ∈ trace, event.request.IsQuiet ∨ event.request.IsPing
  answered : reachable = true ↔ ∃ event ∈ trace, IsAnsweredPing event

theorem not_answeredPing_of_quiet {event : Event signature} (quiet : event.request.IsQuiet) :
    ¬ IsAnsweredPing event := by
  obtain ⟨request, answer⟩ := event
  cases request <;> first | exact quiet.elim | exact id

theorem pingUntil_answered {deadline delay : Duration} {rounds : Nat} {reachable : Bool}
    (run : (pingUntil deadline delay rounds).Yields trace reachable) :
    reachable = true ↔ ∃ event ∈ trace, IsAnsweredPing event := by
  induction rounds generalizing trace with
  | zero =>
      obtain ⟨rfl, rfl⟩ := run
      simp
  | succ rounds ih =>
      obtain ⟨now, _, rfl, asking⟩ := yields_ask_bind.1 run
      obtain ⟨reply, _, rfl, replied⟩ := yields_ask_bind.1 asking
      cases reply with
      | answered text =>
          obtain ⟨rfl, rfl⟩ := replied
          simp [IsAnsweredPing]
      | pending =>
          obtain ⟨rfl, rfl⟩ := replied
          simp [IsAnsweredPing]
      | failed error =>
          obtain ⟨later, _, rfl, rest⟩ := yields_ask_bind.1 replied
          by_cases expired : deadline ≤ later
          · rw [if_pos expired] at rest
            obtain ⟨rfl, rfl⟩ := rest
            simp [IsAnsweredPing]
          · rw [if_neg expired] at rest
            obtain ⟨slept, _, rfl, again⟩ := yields_ask_bind.1 rest
            simpa [IsAnsweredPing] using ih again

theorem isReachable_gate {policy : PingPolicy} {reachable : Bool}
    (run : (isReachable policy).Yields trace reachable) : Gate reachable trace := by
  have asks : (isReachable policy).Asks
      fun request : Request => request.IsQuiet ∨ request.IsPing :=
    isReachable_asks (fun _ time => .inl time.quiet) (fun _ => .inr trivial) policy
  have calls := asks.trace run
  obtain ⟨beginning, _, rfl, pinging⟩ := yields_ask_bind.1 run
  refine ⟨calls, (pingUntil_answered pinging).trans ?_⟩
  simp [IsAnsweredPing]

/-- The stage in which an agent is waited for. -/
def Instance.gateStage (target : Instance) (policy : PingPolicy) (started : Duration)
    (gate : List (Event signature)) (ended : Duration) (reachable : Bool) :
    List (Event signature) :=
  let label := "Waiting for the agent on VM '" ++ target.vm.text ++ "'"
  let outcome : Outcome :=
    if reachable then .done else .skipped ("agent unreachable after " ++ policy.timeout.short)
  ⟨.stageBegun label, ()⟩ :: ⟨.now, started⟩ ::
    (gate ++ [⟨.now, ended⟩, ⟨.stageEnded label outcome (ended - started), ()⟩])

theorem awaitAgent_trace {target : Instance} {policy : PingPolicy}
    {result : Except LifecycleError Bool}
    (run : (target.awaitAgent policy).run.Yields trace result) :
    ∃ started gate ended reachable, trace = target.gateStage policy started gate ended reachable ∧
      (isReachable policy).Yields gate reachable ∧ result = .ok reachable := by
  obtain ⟨_, _, rfl, begun⟩ := yields_ask_bind.1 run
  obtain ⟨started, _, rfl, within⟩ := yields_ask_bind.1 begun
  obtain ⟨reachable, gate, _, rfl, waiting, ending⟩ := Prog.yields_bind.1 within
  obtain ⟨ended, _, rfl, reporting⟩ := yields_ask_bind.1 ending
  obtain ⟨_, _, rfl, rfl, rfl⟩ := yields_ask_bind.1 reporting
  exact ⟨started, gate, ended, reachable, rfl, waiting, rfl⟩

/-- What is said about the wait is quiet. -/
theorem Gate.stage {target : Instance} {policy : PingPolicy} {started ended : Duration}
    {gate : List (Event signature)} {reachable : Bool} (waited : Gate reachable gate) :
    Gate reachable (target.gateStage policy started gate ended reachable) where
  calls := by
    simpa [Instance.gateStage, or_imp, forall_and, Request.IsQuiet] using waited.calls
  answered := waited.answered.trans (by simp [Instance.gateStage, IsAnsweredPing, or_and_right,
    exists_or])

theorem awaitAgent_yields {target : Instance} {policy : PingPolicy}
    {result : Except LifecycleError Bool}
    (run : (target.awaitAgent policy).run.Yields trace result) :
    ∃ reachable, result = .ok reachable ∧ Gate reachable trace := by
  obtain ⟨_, _, _, reachable, rfl, waiting, rfl⟩ := awaitAgent_trace run
  exact ⟨reachable, rfl, (isReachable_gate waiting).stage⟩

/-- A stage that is one call of the agent makes no other call, and comes to what that is answered. -/
theorem agentStage_yields {call : Prog signature (Except AgentError Unit)}
    {result : Except LifecycleError Unit} (event : Except AgentError Unit → Event signature)
    (asked : ∀ {trace answer}, call.Yields trace answer → trace = [event answer])
    (guest : ∀ answer, (event answer).request.IsGuest)
    (run : (agentStage label call).run.Yields trace result) :
    ∃ answer, guestCalls trace = [event answer] ∧ result = answer.mapError .agent := by
  obtain ⟨opening, middle, closing, outcome, rfl, opens, closes, worked, rfl⟩ := perform_yields run
  have reports : guestCalls opening = [] ∧ guestCalls closing = [] :=
    ⟨guestCalls_eq_nil fun event member => not_guest_of_quiet (opens event member),
      guestCalls_eq_nil fun event member => not_guest_of_quiet (closes event member)⟩
  rcases Prog.yields_exceptBind.1 worked with
    ⟨error, rfl, failing⟩ | ⟨_, _, _, rfl, start, rfl, rfl⟩
  · obtain ⟨answer, called, failed⟩ := mapError_yields failing
    obtain rfl := asked called
    refine ⟨answer, by simp [reports, guestCalls_cons (guest _)], ?_⟩
    rw [← failed]
    rfl
  · obtain ⟨answer, called, succeeded⟩ := mapError_yields start
    obtain rfl := asked called
    refine ⟨answer, by simp [reports, guestCalls_cons (guest _)], ?_⟩
    rw [← succeeded]
    rfl

/-- A run that follows a plan makes the calls of the plan when it succeeds. When it fails, it makes
those before the one that it fails at, and that one. -/
def Follows (plan trace : List (Event signature)) : Except LifecycleError Unit → Prop
  | .ok () => guestCalls trace = plan
  | .error _ => ∃ done failed intended left, plan = done ++ intended :: left ∧
      failed.request = intended.request ∧ guestCalls trace = done ++ [failed]

/-- Whoever answers, the program follows the plan. -/
def Guided (plan : List (Event signature)) (program : Program Unit) : Prop :=
  ∀ trace result, program.run.Yields trace result → Follows plan trace result

namespace Follows

variable {plan next : List (Event signature)}

theorem fail {error : LifecycleError} (follows : Follows plan first (.error error)) :
    Follows (plan ++ next) first (.error error) := by
  obtain ⟨done, failed, intended, left, rfl, same, calls⟩ := follows
  exact ⟨done, failed, intended, left ++ next, by simp, same, calls⟩

theorem append {result : Except LifecycleError Unit} (follows : Follows plan first (.ok ()))
    (goesOn : Follows next rest result) : Follows (plan ++ next) (first ++ rest) result := by
  have calls : guestCalls first = plan := follows
  cases result with
  | ok value =>
      change guestCalls rest = next at goesOn
      rw [Follows, guestCalls_append, calls, goesOn]
  | error error =>
      obtain ⟨done, failed, intended, left, rfl, same, later⟩ := goesOn
      exact ⟨plan ++ done, failed, intended, left, by simp, same, by simp [calls, later]⟩

theorem begins {result : Except LifecycleError Unit} (follows : Follows plan trace result) :
    (guestCalls trace).map (·.request) <+: plan.map (·.request) := by
  cases result with
  | ok value =>
      have calls : guestCalls trace = plan := follows
      exact calls ▸ List.prefix_rfl
  | error error =>
      obtain ⟨done, failed, intended, left, rfl, same, calls⟩ := follows
      rw [calls]
      exact ⟨left.map (·.request), by simp [same]⟩

end Follows

namespace Guided

variable {plan next : List (Event signature)} {program : Program Unit}
  {continuation : Unit → Program Unit}

theorem bind (guided : Guided plan program) (rest : Guided next (continuation ())) :
    Guided (plan ++ next) (program >>= continuation) := by
  intro trace result run
  rcases Prog.yields_exceptBind.1 run with
    ⟨error, rfl, failing⟩ | ⟨value, first, late, rfl, start, finish⟩
  · exact (guided trace _ failing).fail
  · exact (guided first _ start).append (rest late result finish)

theorem forM {β : Type} {items : List β} {act : β → Program Unit} {event : β → Event signature}
    (guided : ∀ item, Guided [event item] (act item)) :
    Guided (items.map event) (items.forM act) := by
  induction items with
  | nil =>
      intro trace result run
      obtain ⟨rfl, rfl⟩ := run
      rfl
  | cons item rest ih => exact (guided item).bind ih

theorem agentStage {call : Prog signature (Except AgentError Unit)}
    (event : Except AgentError Unit → Event signature)
    (asked : ∀ {trace answer}, call.Yields trace answer → trace = [event answer])
    (guest : ∀ answer, (event answer).request.IsGuest)
    (same : ∀ error, (event (.error error)).request = (event (.ok ())).request) :
    Guided [event (.ok ())] (agentStage label call) := by
  intro trace result run
  obtain ⟨answer, calls, rfl⟩ := agentStage_yields event asked guest run
  cases answer with
  | ok _ => exact calls
  | error refusal => exact ⟨[], event (.error refusal), event (.ok ()), [], rfl, same refusal, calls⟩

end Guided

namespace Instance

variable {target : Instance} {skipDrain : Bool}

def stopPlan (skipDrain : Bool) : List (Event signature) :=
  ⟨.runScript "pre-stop" [], .ok ()⟩ ::
    (if skipDrain then [] else [⟨.drain drainReason, .ok ()⟩]) ++
    [⟨.stop, .ok ()⟩, ⟨.runScript "post-stop" [], .ok ()⟩]

def unmountPlan (mounted : List (Cid .disk)) : List (Event signature) :=
  ⟨.listDisk, .ok mounted⟩ :: mounted.map fun disk => ⟨.unmountDisk disk, .ok ()⟩

/-- What is asked of the agent before its VM is deleted, with the answers that let the deletion go
on. -/
def emptyingPlan (skipDrain : Bool) (mounted : List (Cid .disk)) : List (Event signature) :=
  stopPlan skipDrain ++ unmountPlan mounted

theorem runScript_guided {name : String} :
    Guided [⟨.runScript name [], .ok ()⟩] (target.runScript name) :=
  Guided.agentStage (fun answer => ⟨.runScript name [], answer⟩) Prog.yields_request.1
    (fun _ => ⟨trivial, id⟩) fun _ => rfl

theorem stopJobs_guided : Guided (stopPlan skipDrain) (target.stopJobs skipDrain) := by
  have stopping : Guided ([⟨.stop, .ok ()⟩] ++ [⟨.runScript "post-stop" [], .ok ()⟩]) (do
      agentStage (target.labelled "Stopping jobs on instance") (ask .stop)
      target.runScript "post-stop") :=
    (Guided.agentStage (fun answer => ⟨.stop, answer⟩) Prog.yields_request.1
      (fun _ => ⟨trivial, id⟩) fun _ => rfl).bind runScript_guided
  cases skipDrain with
  | true => exact runScript_guided.bind stopping
  | false =>
      have draining : Guided [⟨.drain drainReason, .ok ()⟩] (agentStage
          (target.labelled "Draining jobs on instance") (ask (.drain drainReason))) :=
        Guided.agentStage (fun answer => ⟨.drain drainReason, answer⟩) Prog.yields_request.1
          (fun _ => ⟨trivial, id⟩) fun _ => rfl
      exact runScript_guided.bind (draining.bind stopping)

theorem unmountDisks_follows {result : Except LifecycleError Unit}
    (run : unmountDisks.run.Yields trace result) :
    ∃ mounted, Follows (unmountPlan mounted) trace result := by
  have unmounting : ∀ mounted : List (Cid .disk),
      Guided (mounted.map fun disk => ⟨.unmountDisk disk, .ok ()⟩) (mounted.forM unmountDisk) :=
    fun _ => Guided.forM fun disk => Guided.agentStage (fun answer => ⟨.unmountDisk disk, answer⟩)
      Prog.yields_request.1 (fun _ => ⟨trivial, id⟩) fun _ => rfl
  have listGuest : (Request.listDisk).IsGuest := ⟨trivial, id⟩
  rcases Prog.yields_exceptBind.1 run with
    ⟨error, rfl, failing⟩ | ⟨mounted, _, late, rfl, listing, finish⟩
  · obtain ⟨answer, listed, failed⟩ := mapError_yields failing
    obtain rfl := Prog.yields_request.1 listed
    have calls : guestCalls [⟨.listDisk, answer⟩] = [⟨.listDisk, answer⟩] :=
      guestCalls_cons listGuest
    exact ⟨[], [], ⟨.listDisk, answer⟩, ⟨.listDisk, .ok []⟩, [], rfl, rfl, calls⟩
  · obtain ⟨answer, listed, succeeded⟩ := mapError_yields listing
    obtain rfl := Prog.yields_request.1 listed
    cases answer with
    | error refusal => cases succeeded
    | ok disks =>
        cases succeeded
        refine ⟨mounted, ?_⟩
        have follows := unmounting mounted late result finish
        cases result with
        | ok _ =>
            change guestCalls late = _ at follows
            change guestCalls (⟨.listDisk, .ok mounted⟩ :: late) = _
            rw [guestCalls_cons listGuest, follows, unmountPlan]
        | error error =>
            obtain ⟨done, failed, intended, left, plan, same, calls⟩ := follows
            refine ⟨⟨.listDisk, .ok mounted⟩ :: done, failed, intended, left, ?_, same, ?_⟩
            · rw [unmountPlan, plan, List.cons_append]
            · exact (guestCalls_cons listGuest).trans (congrArg _ calls)

end Instance

end DeploymentLifecycle.Lifecycle
