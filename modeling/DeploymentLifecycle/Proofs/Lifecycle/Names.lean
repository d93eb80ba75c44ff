import DeploymentLifecycle.Proofs.Elision
import DeploymentLifecycle.Proofs.Lifecycle.KeptHandles

namespace DeploymentLifecycle

/-! The name of the instance and whoever is reported to are for people: neither decides what is
done. -/

/-- The error as it is under another name of the instance. -/
def LifecycleError.named (name : InstanceName) : LifecycleError → LifecycleError
  | .notRunning _ after lastState => .notRunning name.label after lastState
  | error => error

namespace Lifecycle

open Prog (Mirrors MirrorsExcept mirrors_self mirrorsExcept_pure mirrorsExcept_lift
  mirrorsExcept_forM)

def Instance.named (name : InstanceName) (target : Instance) : Instance :=
  { target with name }

def Deployment.named (name : InstanceName) (deployment : Deployment) : Deployment :=
  { deployment with vmInstance := deployment.vmInstance.map (·.named name) }

/-- A report is answered with nothing, whoever it is made to. -/
def reported? : (request : Request) → Option (Answer request)
  | .stageBegun _ => some ()
  | .stageEnded .. => some ()
  | _ => none

variable {name : InstanceName} {α β γ δ ε : Type}

/-- But for reports, the one program does what the other does, and comes to the image of what that
comes to; in an error it has another name for the instance. -/
abbrev Renames (name : InstanceName) (image : α → β) (program : Program α) (other : Program β) :
    Prop :=
  MirrorsExcept reported? (·.named name) image program other

section Parts

theorem renames_call {call : Prog signature (Except ε α)} {convert : ε → LifecycleError}
    (nameless : ∀ error, (convert error).named name = convert error) :
    Renames name id (ExceptT.mk do return (← call).mapError convert)
      (ExceptT.mk do return (← call).mapError convert) := by
  refine mirrors_self.bind fun result => ?_
  cases result with
  | ok value => rfl
  | error error =>
      change Prog.done (Except.error (convert error)) = .done (.error ((convert error).named name))
      rw [nameless]

theorem renames_stored {program : Store.Program α} :
    Renames name id (stored program) (stored program) :=
  renames_call fun _ => rfl

theorem renames_lift {call : Prog signature α} :
    Renames name id (liftM call : Program α) (liftM call : Program α) :=
  mirrorsExcept_lift mirrors_self

theorem renames_perform {label told : String} {work working : Program Step}
    (renames : Renames name id work working) :
    Renames name id (perform label work) (perform told working) := by
  refine .known rfl rfl (mirrors_self.bind fun started => ?_)
  refine Mirrors.bind renames fun result => mirrors_self.bind fun ended => ?_
  cases result with
  | ok step => exact .known rfl rfl rfl
  | error error => exact .known rfl rfl rfl

theorem renames_agentStage {label told : String} {call : Prog signature (Except AgentError Unit)} :
    Renames name id (agentStage label call) (agentStage told call) :=
  renames_perform ((renames_call fun _ => rfl).bind fun _ => mirrorsExcept_pure)

theorem renames_watchUntil {deadline : Duration} {policy : UpdatePolicy} {one : InstanceName}
    {rounds : Nat} {seen : Option String} :
    Renames name id (watchUntil deadline policy one rounds seen)
      (watchUntil deadline policy name rounds seen) := by
  -- All rounds are the same, but the error after the last one has the name in it.
  induction rounds generalizing seen with
  | zero => rfl
  | succ rounds ih =>
      have again : ∀ seen : Option String, Renames name id
          (do
            if deadline ≤ (← ask .now) then throw (watchUntil.expired policy one seen)
            else
              ask (.sleep policy.pollInterval)
              watchUntil deadline policy one rounds seen)
          (do
            if deadline ≤ (← ask .now) then throw (watchUntil.expired policy name seen)
            else
              ask (.sleep policy.pollInterval)
              watchUntil deadline policy name rounds seen) := by
        intro seen
        refine renames_lift.bind fun now => ?_
        dsimp only [id]
        split
        · rfl
        · exact renames_lift.bind fun _ => ih
      refine renames_lift.bind fun reply => ?_
      cases reply with
      | error error => exact again seen
      | ok state =>
          dsimp only [id]
          split
          · exact mirrorsExcept_pure
          · exact again (some state.jobState)

theorem renames_untilRunning {policy : UpdatePolicy} {one : InstanceName} :
    Renames name id (untilRunning policy one) (untilRunning policy name) := by
  have watching : Renames name id
      (do
        let deadline := (← ask .now) + policy.watch.window
        watchUntil deadline policy one (rounds policy.watch.window policy.pollInterval) none)
      (do
        let deadline := (← ask .now) + policy.watch.window
        watchUntil deadline policy name (rounds policy.watch.window policy.pollInterval) none) :=
    renames_lift.bind fun _ => renames_watchUntil
  rw [untilRunning, untilRunning]
  split
  · exact renames_lift.bind fun _ => watching
  · exact watching

end Parts

namespace Instance

variable {target : Instance} {ping : PingPolicy} {one : InstanceName} {skipDrain : Bool}

theorem awaitAgent_renames : Renames name id (target.awaitAgent ping)
    ((target.named name).awaitAgent ping) := by
  refine .known rfl rfl (mirrors_self.bind fun started => ?_)
  exact mirrors_self.bind fun _ => mirrors_self.bind fun _ => .known rfl rfl rfl

theorem stopJobs_renames : Renames name id (target.stopJobs skipDrain)
    ((target.named name).stopJobs skipDrain) := by
  refine renames_agentStage.bind fun _ => ?_
  cases skipDrain with
  | true => exact renames_agentStage.bind fun _ => renames_agentStage
  | false =>
      exact renames_agentStage.bind fun _ => renames_agentStage.bind fun _ => renames_agentStage

theorem unmountDisks_renames : Renames name id unmountDisks unmountDisks :=
  (renames_call fun _ => rfl).bind fun _ => mirrorsExcept_forM fun _ => renames_agentStage

theorem deleteVm_renames : Renames name id target.deleteVm (target.named name).deleteVm := by
  refine renames_perform ((renames_call fun _ => rfl).bind fun deletion => ?_)
  refine renames_stored.bind fun _ => ?_
  cases deletion <;> exact mirrorsExcept_pure

theorem stop_renames : Renames name id (target.stop ⟨one, ping⟩ skipDrain)
    ((target.named name).stop ⟨name, ping⟩ skipDrain) := by
  refine awaitAgent_renames.bind fun reachable => ?_
  cases reachable with
  | false => exact mirrorsExcept_pure
  | true => exact stopJobs_renames

theorem start_renames {update : UpdatePolicy} : Renames name id (target.start ⟨one, ping⟩ update)
    ((target.named name).start ⟨name, ping⟩ update) := by
  have watching : Renames name id
      (do
        untilRunning update target.name
        return .done : Program Step)
      (do
        untilRunning update name
        return .done) := renames_untilRunning.bind fun _ => mirrorsExcept_pure
  refine awaitAgent_renames.bind fun reachable => ?_
  cases reachable with
  | false => exact mirrorsExcept_pure
  | true =>
      refine renames_agentStage.bind fun _ => renames_agentStage.bind fun _ => ?_
      exact (renames_perform watching).bind fun _ => renames_agentStage

theorem delete_renames : Renames name id (target.delete ⟨one, ping⟩ skipDrain)
    ((target.named name).delete ⟨name, ping⟩ skipDrain) := by
  refine (renames_call fun _ => rfl).bind fun known => ?_
  cases known with
  | false => exact deleteVm_renames
  | true =>
      refine awaitAgent_renames.bind fun reachable => ?_
      cases reachable with
      | false => exact deleteVm_renames
      | true =>
          refine stopJobs_renames.bind fun _ => ?_
          exact unmountDisks_renames.bind fun _ => deleteVm_renames

end Instance

section Releases

variable {kind : Kind} {record : Record kind}

theorem renames_release {label told : String} :
    Renames name id (release label record) (release told record) := by
  refine renames_perform ((renames_call fun _ => rfl).bind fun deletion => ?_)
  refine renames_stored.bind fun _ => ?_
  cases deletion <;> exact mirrorsExcept_pure

theorem renames_releaseCurrent :
    Renames name id (releaseCurrent record) (releaseCurrent record) := by
  refine renames_stored.bind fun current => ?_
  cases current with
  | none => exact mirrorsExcept_pure
  | some current =>
      dsimp only [id]
      split
      · exact renames_release
      · exact mirrorsExcept_pure

theorem renames_releaseUnused : Renames name id (releaseUnused kind) (releaseUnused kind) :=
  renames_stored.bind fun _ => mirrorsExcept_forM fun _ => renames_release

theorem renames_cleanup : Renames name id cleanup cleanup :=
  renames_releaseUnused.bind fun _ => renames_releaseUnused

end Releases

/-- What an operation on handles comes to, under another name. -/
def ending (name : InstanceName) (image : α → β) :
    α × Except LifecycleError Unit → β × Except LifecycleError Unit :=
  Prod.map image (·.mapError (·.named name))

namespace Deployment

variable {deployment : Deployment} {ping : PingPolicy} {one : InstanceName} {skipDrain : Bool}

theorem isEmpty_named : (deployment.named name).isEmpty = deployment.isEmpty := by
  simp [isEmpty, named]

theorem unlessEmpty_named (name : InstanceName) (deployment : Deployment) :
    (if (deployment.named name).isEmpty then none else some (deployment.named name)) =
      (if deployment.isEmpty then none else some deployment).map (·.named name) := by
  rw [isEmpty_named]
  split <;> rfl

theorem current?_renames : Renames name (Option.map (Deployment.named name))
    (current? ⟨one, ping⟩) (current? ⟨name, ping⟩) := by
  have vmInstance : Renames name (Option.map (Instance.named name))
      (currentInstance? ⟨one, ping⟩) (currentInstance? ⟨name, ping⟩) := by
    refine renames_stored.bind fun vm => ?_
    cases vm <;> exact mirrorsExcept_pure
  refine vmInstance.bind fun vm => renames_stored.bind fun disk => ?_
  refine renames_stored.bind fun stemcell => ?_
  exact congrArg (fun found => Prog.done (Except.ok found))
    (unlessEmpty_named name ⟨vm, disk, stemcell⟩)

theorem consume_renames {handle : Option α} {image : α → β} {delete : α → Program Unit}
    {deleteImage : β → Program Unit}
    (renames : ∀ held, Renames name id (delete held) (deleteImage (image held))) :
    Mirrors reported? (ending name (Option.map image)) (consume handle delete)
      (consume (handle.map image) deleteImage) := by
  cases handle with
  | none => rfl
  | some held =>
      refine Mirrors.bind (renames held) fun result => ?_
      cases result <;> rfl

theorem delete_renames : Mirrors reported? (ending name (Deployment.named name))
    (deployment.delete ⟨one, ping⟩ skipDrain)
    ((deployment.named name).delete ⟨name, ping⟩ skipDrain) := by
  have vmDeleted : Mirrors reported? (ending name (Option.map (Instance.named name)))
      (consume deployment.vmInstance (·.delete ⟨one, ping⟩ skipDrain))
      (consume (deployment.vmInstance.map (·.named name)) (·.delete ⟨name, ping⟩ skipDrain)) :=
    consume_renames fun _ => Instance.delete_renames
  have released : ∀ {kind : Kind} (handle : Option (Record kind)),
      Mirrors reported? (ending name (Option.map id)) (consume handle releaseCurrent)
        (consume (handle.map id) releaseCurrent) :=
    fun _ => consume_renames fun _ => renames_releaseCurrent
  simp only [Option.map_id] at released
  refine vmDeleted.bind fun (vmInstance, result) => ?_
  cases result with
  | error error => rfl
  | ok _ =>
      refine (released deployment.disk).bind fun (disk, result) => ?_
      cases result with
      | error error => rfl
      | ok _ => exact (released deployment.stemcell).bind fun _ => rfl

theorem stop_renames : Renames name id (deployment.stop ⟨one, ping⟩ skipDrain)
    ((deployment.named name).stop ⟨name, ping⟩ skipDrain) := by
  obtain ⟨_ | target, disk, stemcell⟩ := deployment
  · exact mirrorsExcept_pure
  · exact Instance.stop_renames

theorem start_renames {update : UpdatePolicy} : Renames name id
    (deployment.start ⟨one, ping⟩ update) ((deployment.named name).start ⟨name, ping⟩ update) := by
  obtain ⟨_ | target, disk, stemcell⟩ := deployment
  · exact mirrorsExcept_pure
  · exact Instance.start_renames

end Deployment

theorem Call.renames {call : Call} {deployment : Deployment} {ping : PingPolicy}
    {one : InstanceName} :
    Mirrors reported? (ending name (Deployment.named name))
      (call.program ⟨one, ping⟩ deployment)
      (call.program ⟨name, ping⟩ (deployment.named name)) := by
  cases call with
  | delete skipDrain => exact Deployment.delete_renames
  | stop skipDrain =>
      refine Mirrors.bind Deployment.stop_renames fun result => ?_
      cases result <;> rfl
  | start update =>
      refine Mirrors.bind Deployment.start_renames fun result => ?_
      cases result <;> rfl

/-- One of the things that can be done in turn. The deployments that were found are kept, and told
apart by their number; one that was never found is empty. -/
inductive Instruction where
  | lookUp
  | status
  | call (kept : Nat) (call : Call)
  | deleteInstance (vm : Cid .vm) (skipDrain : Bool)
  | releaseCurrent {kind : Kind} (record : Record kind)
  | releaseUnused (kind : Kind)
  | cleanup

inductive Reply where
  | found (result : Except LifecycleError (Option Deployment))
  | status (result : Except LifecycleError (Option Status))
  | finished (result : Except LifecycleError Unit)

def Reply.named (name : InstanceName) : Reply → Reply
  | .found result => .found ((result.map (Option.map (·.named name))).mapError (·.named name))
  | .status result => .status (result.mapError (·.named name))
  | .finished result => .finished (result.mapError (·.named name))

def Instruction.program (settings : Settings) (kept : List Deployment) :
    Instruction → Prog signature (List Deployment × Reply)
  | .lookUp => do
    let result ← (Deployment.current? settings).run
    return (kept ++ (result.toOption.join).toList, .found result)
  | .status => do return (kept, .status (← Deployment.status.run))
  | .call index called => do
    let (left, result) ← called.program settings (kept[index]?.getD {})
    return (kept.set index left, .finished result)
  | .deleteInstance vm skipDrain => do
    let target : Instance := ⟨settings.instanceName, vm⟩
    return (kept, .finished (← (target.delete settings skipDrain).run))
  | .releaseCurrent record => do return (kept, .finished (← (Lifecycle.releaseCurrent record).run))
  | .releaseUnused kind => do return (kept, .finished (← (Lifecycle.releaseUnused kind).run))
  | .cleanup => do return (kept, .finished (← Lifecycle.cleanup.run))

def session (settings : Settings) : List Instruction → List Deployment →
    Prog signature (List Deployment × List Reply)
  | [], kept => return (kept, [])
  | instruction :: rest, kept => do
    let (kept, reply) ← instruction.program settings kept
    let (kept, replies) ← session settings rest kept
    return (kept, reply :: replies)

section Sessions

variable {ping : PingPolicy} {one : InstanceName} {kept : List Deployment}

theorem finished_renames {program other : Program Unit} (renames : Renames name id program other) :
    Mirrors reported? (Prod.map (List.map (·.named name)) (·.named name))
      (do return (kept, Reply.finished (← program.run)))
      (do return (kept.map (·.named name), Reply.finished (← other.run))) := by
  refine Mirrors.bind renames fun result => ?_
  cases result <;> rfl

theorem Instruction.renames {instruction : Instruction} :
    Mirrors reported? (Prod.map (List.map (·.named name)) (·.named name))
      (instruction.program ⟨one, ping⟩ kept)
      (instruction.program ⟨name, ping⟩ (kept.map (·.named name))) := by
  cases instruction with
  | lookUp =>
      refine Mirrors.bind Deployment.current?_renames fun result => ?_
      have appended : ∀ found : Option Deployment,
          kept.map (·.named name) ++ (found.map (·.named name)).toList =
            (kept ++ found.toList).map (·.named name) := by
        intro found
        cases found <;> simp
      cases result with
      | error error => exact congrArg (fun kept => Prog.done (kept, _)) (appended none)
      | ok found => exact congrArg (fun kept => Prog.done (kept, _)) (appended found)
  | status =>
      have status : Renames name id Deployment.status Deployment.status :=
        renames_stored.bind fun _ => mirrorsExcept_pure
      refine Mirrors.bind status fun result => ?_
      cases result <;> rfl
  | call index called =>
      have handle : (kept.map (·.named name))[index]?.getD {} =
          (kept[index]?.getD {}).named name := by
        cases found : kept[index]? <;> simp [found, Deployment.named]
      rw [Instruction.program, Instruction.program, handle]
      refine Mirrors.bind Call.renames fun (left, result) => ?_
      exact congrArg (fun kept => Prog.done (kept, _)) List.map_set.symm
  | deleteInstance vm skipDrain => exact finished_renames Instance.delete_renames
  | releaseCurrent record => exact finished_renames renames_releaseCurrent
  | releaseUnused kind => exact finished_renames renames_releaseUnused
  | cleanup => exact finished_renames renames_cleanup

theorem session_renames {instructions : List Instruction} :
    Mirrors reported? (Prod.map (List.map (·.named name)) (List.map (·.named name)))
      (session ⟨one, ping⟩ instructions kept)
      (session ⟨name, ping⟩ instructions (kept.map (·.named name))) := by
  induction instructions generalizing kept with
  | nil => rfl
  | cons instruction rest ih =>
      refine Mirrors.bind Instruction.renames fun (kept, reply) => ?_
      exact ih.bind fun _ => rfl

/-- What was asked for, but for reports. -/
def acts (trace : List (Event signature)) : List (Event signature) :=
  trace.filter fun event => (reported? event.request).isNone

theorem named_named {first second : InstanceName} :
    (kept.map (·.named first)).map (·.named second) = kept.map (·.named second) := by
  simp [Function.comp_def, Deployment.named, Instance.named]

/-- Whoever is reported to, and whatever the instance is called, the same is done: the world is
asked for the same and left in the same state, and what comes of it differs by the name alone. -/
theorem names_and_reporters_decide_nothing {σ ρ τ : Type}
    (world : (request : Request) → StateM σ (Answer request)) (listen : Request → ρ → ρ)
    (listenOther : Request → τ → τ) (ping : PingPolicy) (one other : InstanceName)
    (instructions : List Instruction) (kept : List Deployment) (state : σ) (heard : ρ)
    (heardOther : τ) :
    let first := (session ⟨one, ping⟩ instructions (kept.map (·.named one))).record
      (Prog.attended reported? world listen) (state, heard)
    let second := (session ⟨other, ping⟩ instructions (kept.map (·.named other))).record
      (Prog.attended reported? world listenOther) (state, heardOther)
    acts second.trace = acts first.trace ∧ second.state.1 = first.state.1 ∧
      second.value.1 = first.value.1.map (·.named other) ∧
      second.value.2 = first.value.2.map (·.named other) ∧
      first.value.1 = second.value.1.map (·.named one) ∧
      first.value.2 = second.value.2.map (·.named one) := by
  intro first second
  have forth : second.unheard reported? = (first.unheard reported?).map _ :=
    (named_named ▸ session_renames).unheard listenOther state heard heardOther
  have back : first.unheard reported? = (second.unheard reported?).map _ :=
    (named_named ▸ session_renames).unheard listen state heardOther heard
  exact ⟨congrArg (·.trace) forth, congrArg (·.state) forth, congrArg (·.value.1) forth,
    congrArg (·.value.2) forth, congrArg (·.value.1) back, congrArg (·.value.2) back⟩

end Sessions

end Lifecycle

end DeploymentLifecycle
