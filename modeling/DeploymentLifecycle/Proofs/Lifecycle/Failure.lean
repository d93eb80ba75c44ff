import DeploymentLifecycle.Proofs.Lifecycle.Requests
import DeploymentLifecycle.State.Repository

namespace DeploymentLifecycle

/-! A deletion ends at the first failure. What is asked for after it only says how the stage
ended. -/

namespace Store

def Fails : Event signature → Prop
  | ⟨.load, .error _⟩ | ⟨.read, .error _⟩ | ⟨.save _, .error _⟩ => True
  | _ => False

def policy {α : Type} : FailurePolicy signature (Except StateError α) :=
  ⟨Fails, fun _ => False, (·.isOk)⟩

variable {α : Type}

theorem load_stops {next : Document → Program α}
    (rest : ∀ document, (next document).run.StopsAtFailure policy) :
    (load >>= next).run.StopsAtFailure policy := by
  intro answer
  cases answer with
  | error error => exact ⟨fun _ => nofun, fun fine => (fine trivial).elim⟩
  | ok document => exact ⟨fun fails => fails.elim, fun _ => rest document⟩

theorem save_stops {document : Document} : (save document).run.StopsAtFailure policy := by
  intro answer
  cases answer with
  | error error => exact ⟨fun _ => nofun, fun fine => (fine trivial).elim⟩
  | ok _ => exact ⟨fun fails => fails.elim, fun _ => rfl⟩

end Store

theorem CurrentVm.find?_stops : CurrentVm.find?.run.StopsAtFailure Store.policy :=
  Store.load_stops fun _ => rfl

theorem CurrentVm.clear_stops : CurrentVm.clear.run.StopsAtFailure Store.policy := by
  refine Store.load_stops fun document => ?_
  split
  · exact Store.save_stops
  · rfl

theorem Records.current?_stops {kind : Kind} :
    (Records.current? kind).run.StopsAtFailure Store.policy :=
  Store.load_stops fun _ => rfl

theorem Records.unused_stops {kind : Kind} :
    (Records.unused kind).run.StopsAtFailure Store.policy :=
  Store.load_stops fun _ => rfl

theorem Records.delete_stops {kind : Kind} {id : RecordId kind} :
    (Records.delete id).run.StopsAtFailure Store.policy := by
  refine Store.load_stops fun document => ?_
  dsimp only
  split
  · exact Store.save_stops
  · rfl

section Results

variable {ε α : Type} {result : Except ε α}

theorem ok_of_isOk (success : result.isOk) : ∃ value, result = .ok value := by
  cases result with
  | ok value => exact ⟨value, rfl⟩
  | error error => cases success

theorem error_of_not_isOk (failed : ¬ result.isOk) : ∃ error, result = .error error := by
  cases result with
  | ok value => exact (failed rfl).elim
  | error error => exact ⟨error, rfl⟩

theorem fails_iff_not_isOk {fails : Except ε α → Prop} (refused : ∀ error, fails (.error error))
    (agreed : ∀ value, ¬ fails (.ok value)) (result : Except ε α) :
    fails result ↔ ¬ result.isOk := by
  cases result with
  | ok value => exact ⟨fun failed => absurd failed (agreed value), fun failed => (failed rfl).elim⟩
  | error error => exact ⟨fun _ => nofun, fun _ => refused error⟩

end Results

namespace Lifecycle

/-- The answer is an error. A ping is answered in its own way, and no such answer is a failure. -/
def Fails : Event signature → Prop
  | ⟨.store request, answer⟩ => Store.Fails ⟨request, answer⟩
  | ⟨.hasVm _, .error _⟩ | ⟨.delete .., .error _⟩ | ⟨.runScript .., .error _⟩ | ⟨.drain _, .error _⟩
  | ⟨.stop, .error _⟩ | ⟨.start, .error _⟩ | ⟨.getState, .error _⟩ | ⟨.listDisk, .error _⟩
  | ⟨.unmountDisk _, .error _⟩ => True
  | _ => False

def policy {α : Type} (success : α → Prop) : FailurePolicy signature α :=
  ⟨Fails, Request.IsQuiet, success⟩

variable {α β : Type}

abbrev StopsAtFailure (program : Program α) : Prop :=
  program.run.StopsAtFailure (policy (·.isOk))

section Parts

theorem stops_bind {program : Program α} {next : α → Program β} (first : StopsAtFailure program)
    (rest : ∀ value, StopsAtFailure (next value)) : StopsAtFailure (program >>= next) := by
  refine Prog.StopsAtFailure.bind first (fun outcome success => ?_) fun outcome failed => ?_
  · obtain ⟨value, rfl⟩ := ok_of_isOk success
    exact rest value
  · obtain ⟨error, rfl⟩ := error_of_not_isOk failed
    exact failed

theorem stops_of_asks {program : Prog signature α} {next : α → Prog signature β}
    {success : β → Prop} {only : signature.Request → Prop} (asks : program.Asks only)
    (never : ∀ request answer, only request → ¬ Fails ⟨request, answer⟩)
    (rest : ∀ value, (next value).StopsAtFailure (policy success)) :
    (program >>= next).StopsAtFailure (policy success) := by
  change (program.bind next).StopsAtFailure _
  induction program with
  | done value => exact rest value
  | ask request go ih =>
      intro answer
      have fine := never request answer asks.1
      exact ⟨fun fails => absurd fails fine, fun _ => ih answer (asks.2 answer)⟩

theorem never_of_quiet (request : Request) (answer : Answer request) (quiet : request.IsQuiet) :
    ¬ Fails ⟨request, answer⟩ := by
  cases request <;> first | exact quiet.elim | exact id

theorem never_of_ping (request : Request) (answer : Answer request)
    (quietOrPing : request.IsQuiet ∨ request.IsPing) : ¬ Fails ⟨request, answer⟩ := by
  rcases quietOrPing with quiet | ping
  · exact never_of_quiet request answer quiet
  · cases request <;> first | exact ping.elim | exact id

theorem quiet_stops {request : Request} {next : Answer request → Prog signature α}
    {success : α → Prop} (quiet : request.IsQuiet)
    (rest : ∀ answer, (next answer).StopsAtFailure (policy success)) :
    (ask request >>= next).StopsAtFailure (policy success) :=
  stops_of_asks (asks_ask.2 quiet) never_of_quiet rest

theorem ask_stops {request : Request} {success : Answer request → Prop}
    (fails : ∀ answer, Fails ⟨request, answer⟩ ↔ ¬ success answer) :
    (ask request).StopsAtFailure (policy success) := by
  intro answer
  refine ⟨(fails answer).1, fun fine => ?_⟩
  exact Classical.byContradiction fun failed => fine ((fails answer).2 failed)

theorem stops_mapError {ε : Type} {call : Prog signature (Except ε α)}
    {convert : ε → LifecycleError} (stops : call.StopsAtFailure (policy (·.isOk))) :
    StopsAtFailure (ExceptT.mk do return (← call).mapError convert) := by
  refine stops.bind (fun answer success => ?_) fun answer failed => ?_
  · obtain ⟨value, rfl⟩ := ok_of_isOk success
    rfl
  · obtain ⟨error, rfl⟩ := error_of_not_isOk failed
    exact failed

theorem stored_stops {program : Store.Program α} (stops : program.run.StopsAtFailure Store.policy) :
    StopsAtFailure (stored program) := by
  have interpreted : ∀ inner : Prog Store.signature (Except StateError α),
      inner.StopsAtFailure Store.policy →
      (inner.interpret fun request => ask (.store request)).StopsAtFailure (policy (·.isOk)) := by
    intro inner
    induction inner with
    | done result => exact id
    | ask request next ih =>
        intro stops answer
        refine ⟨fun fails => ?_, fun fine => ih answer ((stops answer).2 fine)⟩
        -- A store is asked for nothing after it failed, so the program has ended here.
        have givenUp := (stops answer).1 fails
        cases ended : next answer with
        | done result =>
            rw [ended] at givenUp
            change Prog.GivesUp _ ((next answer).interpret _)
            rw [ended]
            exact givenUp
        | ask request next =>
            rw [ended] at givenUp
            exact givenUp.1.elim
  exact stops_mapError (interpreted program.run stops)

theorem perform_stops {label : String} {work : Program Step} (stops : StopsAtFailure work) :
    StopsAtFailure (perform label work) := by
  refine quiet_stops trivial fun _ => quiet_stops trivial fun started => ?_
  refine stops.bind (fun result success => ?_) fun result failed => ?_
  · obtain ⟨step, rfl⟩ := ok_of_isOk success
    exact quiet_stops trivial fun ended => quiet_stops trivial fun _ => rfl
  · obtain ⟨error, rfl⟩ := error_of_not_isOk failed
    exact ⟨trivial, fun ended => ⟨trivial, fun _ => nofun⟩⟩

theorem stops_forM {items : List β} {act : β → Program Unit}
    (stops : ∀ item, StopsAtFailure (act item)) : StopsAtFailure (items.forM act) := by
  induction items with
  | nil => rfl
  | cons item rest ih => exact stops_bind (stops item) fun _ => ih

theorem agentStage_stops {label : String} {call : Prog signature (Except AgentError Unit)}
    (stops : call.StopsAtFailure (policy (·.isOk))) : StopsAtFailure (agentStage label call) :=
  perform_stops (stops_bind (stops_mapError stops) fun _ => rfl)

theorem awaitAgent_stops (target : Instance) (ping : PingPolicy) :
    StopsAtFailure (target.awaitAgent ping) := by
  have asks : (isReachable ping).Asks fun request : Request => request.IsQuiet ∨ request.IsPing :=
    isReachable_asks (fun _ time => .inl time.quiet) (fun _ => .inr trivial) ping
  refine quiet_stops trivial fun _ => quiet_stops trivial fun started => ?_
  refine stops_of_asks asks never_of_ping fun reachable => ?_
  exact quiet_stops trivial fun ended => quiet_stops trivial fun _ => rfl

theorem deletion_stops {resource : Resource} {cid : Cid resource} :
    (ask (.delete resource cid)).StopsAtFailure (policy (·.isOk)) :=
  ask_stops (fails_iff_not_isOk (fun _ => trivial) fun _ => id)

end Parts

namespace Instance

variable {target : Instance} {settings : Settings} {skipDrain : Bool}

theorem runScript_stops {name : String} : StopsAtFailure (target.runScript name) :=
  agentStage_stops (ask_stops (fails_iff_not_isOk (fun _ => trivial) fun _ => id))

theorem stopJobs_stops : StopsAtFailure (target.stopJobs skipDrain) := by
  have drains : (ask (.drain drainReason)).StopsAtFailure (policy (·.isOk)) :=
    ask_stops (fails_iff_not_isOk (fun _ => trivial) fun _ => id)
  have stops : (ask .stop).StopsAtFailure (policy (·.isOk)) :=
    ask_stops (fails_iff_not_isOk (fun _ => trivial) fun _ => id)
  have stopping : StopsAtFailure (do
      agentStage (target.labelled "Stopping jobs on instance") (ask .stop)
      target.runScript "post-stop" : Program Unit) :=
    stops_bind (agentStage_stops stops) fun _ => runScript_stops
  refine stops_bind runScript_stops fun _ => ?_
  dsimp only
  split
  · exact stops_bind (agentStage_stops drains) fun _ => stopping
  · exact stopping

theorem unmountDisks_stops : StopsAtFailure unmountDisks := by
  have lists : (ask .listDisk).StopsAtFailure (policy (·.isOk)) :=
    ask_stops (fails_iff_not_isOk (fun _ => trivial) fun _ => id)
  have unmounts : ∀ disk, (ask (.unmountDisk disk)).StopsAtFailure (policy (·.isOk)) :=
    fun _ => ask_stops (fails_iff_not_isOk (fun _ => trivial) fun _ => id)
  apply stops_bind (stops_mapError lists)
  exact fun mounted => stops_forM fun disk => agentStage_stops (unmounts disk)

theorem deleteVm_stops : StopsAtFailure target.deleteVm := by
  refine perform_stops (stops_bind (stops_mapError deletion_stops) fun deletion => ?_)
  refine stops_bind (stored_stops CurrentVm.clear_stops) fun _ => ?_
  cases deletion <;> rfl

theorem delete_stops : StopsAtFailure (target.delete settings skipDrain) := by
  have checks : (ask (.hasVm target.vm)).StopsAtFailure (policy (·.isOk)) :=
    ask_stops (fails_iff_not_isOk (fun _ => trivial) fun _ => id)
  have emptying : StopsAtFailure (do
      target.stopJobs skipDrain
      unmountDisks
      target.deleteVm) :=
    stops_bind stopJobs_stops fun _ => stops_bind unmountDisks_stops fun _ => deleteVm_stops
  refine stops_bind (stops_mapError checks) fun known => ?_
  cases known with
  | false => exact deleteVm_stops
  | true =>
      refine stops_bind (awaitAgent_stops target settings.ping) fun reachable => ?_
      cases reachable with
      | false => exact deleteVm_stops
      | true => exact emptying

end Instance

section Releases

variable {kind : Kind} {record : Record kind}

theorem release_stops {label : String} : StopsAtFailure (release label record) := by
  refine perform_stops (stops_bind (stops_mapError deletion_stops) fun deletion => ?_)
  refine stops_bind (stored_stops Records.delete_stops) fun _ => ?_
  cases deletion <;> rfl

theorem releaseCurrent_stops : StopsAtFailure (releaseCurrent record) := by
  refine stops_bind (stored_stops Records.current?_stops) fun current => ?_
  cases current with
  | none => rfl
  | some current =>
      dsimp only
      split
      · exact release_stops
      · rfl

theorem releaseUnused_stops : StopsAtFailure (releaseUnused kind) :=
  stops_bind (stored_stops Records.unused_stops) fun _ => stops_forM fun _ => release_stops

theorem cleanup_stops : StopsAtFailure cleanup :=
  stops_bind releaseUnused_stops fun _ => releaseUnused_stops

end Releases

namespace Deployment

theorem consume_stops {handle : Option α} {delete : α → Program Unit}
    (stops : ∀ held, StopsAtFailure (delete held)) :
    (consume handle delete).StopsAtFailure (policy (·.2.isOk)) := by
  cases handle with
  | none => rfl
  | some held =>
      refine (stops held).bind (fun result success => ?_) fun result failed => ?_
      · obtain ⟨_, rfl⟩ := ok_of_isOk success
        rfl
      · obtain ⟨error, rfl⟩ := error_of_not_isOk failed
        exact failed

theorem current?_stops (settings : Settings) : StopsAtFailure (current? settings) := by
  have vmInstance : StopsAtFailure (currentInstance? settings) :=
    stops_bind (stored_stops CurrentVm.find?_stops) fun _ => rfl
  have record : ∀ kind, StopsAtFailure (currentRecord? kind) :=
    fun _ => stored_stops Records.current?_stops
  exact stops_bind vmInstance fun _ => stops_bind (record .disk) fun _ =>
    stops_bind (record .stemcell) fun _ => rfl

theorem delete_stops (deployment : Deployment) (settings : Settings) (skipDrain : Bool) :
    (deployment.delete settings skipDrain).StopsAtFailure (policy (·.2.isOk)) := by
  have vmInstance : (consume deployment.vmInstance (·.delete settings skipDrain)).StopsAtFailure
      (policy (·.2.isOk)) := consume_stops fun _ => Instance.delete_stops
  have released : ∀ {kind : Kind} (handle : Option (Record kind)),
      (consume handle releaseCurrent).StopsAtFailure (policy (·.2.isOk)) :=
    fun _ => consume_stops fun _ => releaseCurrent_stops
  refine vmInstance.bind ?_ ?_
  · intro outcome success
    obtain ⟨vmInstance, result⟩ := outcome
    obtain ⟨⟨⟩, rfl⟩ := ok_of_isOk success
    refine (released deployment.disk).bind ?_ ?_
    · intro outcome success
      obtain ⟨disk, result⟩ := outcome
      obtain ⟨⟨⟩, rfl⟩ := ok_of_isOk success
      exact (released deployment.stemcell).bind (fun _ success => success) fun _ failed => failed
    · intro outcome failed
      obtain ⟨disk, result⟩ := outcome
      obtain ⟨error, rfl⟩ := error_of_not_isOk failed
      exact failed
  · intro outcome failed
    obtain ⟨vmInstance, result⟩ := outcome
    obtain ⟨error, rfl⟩ := error_of_not_isOk failed
    exact failed

end Deployment

end Lifecycle

end DeploymentLifecycle
