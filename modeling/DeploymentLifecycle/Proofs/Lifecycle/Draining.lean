import DeploymentLifecycle.Proofs.Lifecycle.Delay
import DeploymentLifecycle.Proofs.Lifecycle.GuestOnly
import DeploymentLifecycle.Proofs.Lifecycle.Teardown

namespace DeploymentLifecycle.Lifecycle

/-! Stopping the jobs of an instance with a drain and without one. -/

open Prog (Recorded)

/-- What the stage of a drain shows that starts at this time and takes this long. -/
def Instance.drainStage (target : Instance) (started time : Duration) : List (Event signature) :=
  let label := target.labelled "Draining jobs on instance"
  [⟨.stageBegun label, ()⟩, ⟨.now, started⟩, ⟨.drain drainReason, .ok ()⟩, ⟨.now, started + time⟩,
    ⟨.stageEnded label .done time, ()⟩]

section Spares

variable {σ α β : Type} {script : Script σ} {held : Option Instance} {target : Instance}

/-- The run with something else before it. -/
def behind (earlier : List (Event signature)) (run : Recorded signature α (Scene σ)) :
    Recorded signature α (Scene σ) :=
  { run with trace := earlier ++ run.trace }

theorem behind_behind {first second : List (Event signature)}
    {run : Recorded signature α (Scene σ)} :
    behind first (behind second run) = behind (first ++ second) run :=
  congrArg (Recorded.mk · run.value run.state) (List.append_assoc ..).symm

theorem delayedRun_behind {time : Duration} {earlier : List (Event signature)}
    {run : Recorded signature α (Scene σ)} :
    delayedRun time (behind earlier run) =
      behind (earlier.map (delayed time)) (delayedRun time run) :=
  congrArg (Recorded.mk · run.value (run.state.delayed time)) List.map_append

/-- The second run is the first without the drain. Up to there they are the same, and what comes
after is only earlier, by the time that the drain took. -/
inductive Spared (script : Script σ) : Option Instance → Scene σ →
    Recorded signature α (Scene σ) → Recorded signature α (Scene σ) → Prop
  | same {held : Option Instance} {start : Scene σ} (run : Recorded signature α (Scene σ)) :
      Spared script held start run run
  | drained (target : Instance) {start : Scene σ} {before : List (Event signature)}
      {scene : Scene σ} (reached : (Prog.answering script.answer).Along start before scene)
      (after : Recorded signature α (Scene σ)) : Spared script (some target) start
        (behind (before ++ target.drainStage scene.clock (script.drainTime scene.others))
          (delayedRun (script.drainTime scene.others) after))
        (behind before after)

theorem Spared.behind {long short : Recorded signature α (Scene σ)} {start middle : Scene σ}
    {first : List (Event signature)} (spared : Spared script held middle long short)
    (reached : (Prog.answering script.answer).Along start first middle) :
    Spared script held start (behind first long) (behind first short) := by
  cases spared with
  | same => exact .same _
  | drained target further after =>
      rw [behind_behind, behind_behind, ← List.append_assoc]
      exact .drained target (Conduct.along_append.2 ⟨middle, reached, further⟩) after

/-- Wherever the two programs are run, the second does the same without the drain. -/
def Spares (script : Script σ) (held : Option Instance) (long short : Prog signature α) : Prop :=
  ∀ scene, Spared script held scene (long.record script.answer scene)
    (short.record script.answer scene)

theorem Spares.refl (program : Prog signature α) : Spares script held program program :=
  fun _ => .same _

theorem Spares.after {first : Prog signature α} {long short : α → Prog signature β}
    (rest : ∀ value, Spares script held (long value) (short value)) :
    Spares script held (first >>= long) (first >>= short) := by
  intro scene
  rw [Prog.record_bind, Prog.record_bind]
  exact (rest _ _).behind (Prog.along_record first)

theorem Spares.bind {long short : Prog signature α} {next : α → Prog signature β}
    (spares : Spares script held long short) (blind : ∀ value, Blind script (next value)) :
    Spares script held (long >>= next) (short >>= next) := by
  intro scene
  have spared := spares scene
  rw [Prog.record_bind, Prog.record_bind]
  generalize long.record script.answer scene = one at spared ⊢
  generalize short.record script.answer scene = other at spared ⊢
  cases spared with
  | same => exact .same _
  | drained target reached after =>
      -- In the first run the rest begins later, and what it then does is only later, too.
      let rest := (next after.value).record script.answer after.state
      have whole := Spared.drained target reached (behind after.trace rest)
      rw [delayedRun_behind, behind_behind, behind_behind, ← blind] at whole
      exact whole

theorem Spares.exceptAfter {ε : Type} {first : ExceptT ε (Prog signature) α}
    {long short : α → ExceptT ε (Prog signature) β}
    (rest : ∀ value, Spares script held (long value).run (short value).run) :
    Spares script held (first >>= long).run (first >>= short).run := by
  rw [ExceptT.run_bind, ExceptT.run_bind]
  refine .after fun result => ?_
  cases result with
  | ok value => exact rest value
  | error error => exact .refl _

theorem Spares.exceptBind {ε : Type} {long short : ExceptT ε (Prog signature) α}
    {next : α → ExceptT ε (Prog signature) β} (spares : Spares script held long.run short.run)
    (blind : ∀ value, Blind script (next value).run) :
    Spares script held (long >>= next).run (short >>= next).run := by
  rw [ExceptT.run_bind, ExceptT.run_bind]
  refine spares.bind fun result => ?_
  cases result with
  | ok value => exact blind value
  | error error => exact blind_pure

theorem record_drainStage {scene : Scene σ} :
    (agentStage (target.labelled "Draining jobs on instance")
      (ask (.drain drainReason))).run.record script.answer scene =
      ⟨target.drainStage scene.clock (script.drainTime scene.others), .ok (),
        scene.delayed (script.drainTime scene.others)⟩ := by
  have worked : (do
      agentCall (ask (.drain drainReason))
      return .done : Program Step).run.record script.answer scene =
        ⟨[⟨.drain drainReason, .ok ()⟩], .ok .done,
          scene.delayed (script.drainTime scene.others)⟩ := rfl
  have lasted : (scene.clock + script.drainTime scene.others) - scene.clock =
      script.drainTime scene.others :=
    Duration.eq_of_nanos (Nat.add_sub_cancel_left ..)
  rw [agentStage, record_stage, worked, Instance.drainStage]
  dsimp only [Scene.delayed]
  rw [lasted]
  rfl

/-- The drain as such: a stage that is done before the rest, and one that is not. -/
theorem spares_drain {rest : Program Unit} (blind : Blind script rest.run) :
    Spares script (some target) (do
      agentStage (target.labelled "Draining jobs on instance") (ask (.drain drainReason))
      rest : Program Unit).run rest.run := by
  intro scene
  have here : (Prog.answering script.answer).Along scene [] scene := rfl
  rw [ExceptT.run_bind, Prog.record_bind, record_drainStage]
  change Spared script _ _ (behind _ (rest.run.record script.answer (scene.delayed _))) _
  rw [blind]
  exact .drained target here (rest.run.record script.answer scene)

theorem stopJobs_spares : Spares script (some target) (target.stopJobs false).run
    (target.stopJobs true).run :=
  .exceptAfter fun _ => spares_drain
    ((blind_agentStage (asks_ask.2 id)).exceptBind fun _ => blind_agentStage (asks_ask.2 id))

theorem Instance.stop_spares {settings : Settings} : Spares script (some target)
    (target.stop settings false).run (target.stop settings true).run := by
  refine .exceptAfter fun reachable => ?_
  cases reachable with
  -- The program is named here, since otherwise the two calls are unfolded to compare them.
  | false => exact .refl (pure (Except.ok ()))
  | true => exact stopJobs_spares

theorem Instance.delete_spares {settings : Settings} : Spares script (some target)
    (target.delete settings false).run (target.delete settings true).run := by
  refine .exceptAfter fun known => ?_
  cases known with
  | false => exact .refl target.deleteVm.run
  | true =>
      refine .exceptAfter fun reachable => ?_
      cases reachable with
      | false => exact .refl target.deleteVm.run
      | true => exact stopJobs_spares.exceptBind fun _ =>
          blind_unmountDisks.exceptBind fun _ => blind_deleteVm target

theorem Deployment.stop_spares {deployment : Deployment} {settings : Settings} :
    Spares script deployment.vmInstance (deployment.stop settings false).run
      (deployment.stop settings true).run := by
  rcases deployment with ⟨none | target, disk, stemcell⟩
  · exact .refl (pure (Except.ok ()))
  · exact Instance.stop_spares

theorem Deployment.delete_spares {deployment : Deployment} {settings : Settings} :
    Spares script deployment.vmInstance (deployment.delete settings false)
      (deployment.delete settings true) := by
  have consumed : Spares script deployment.vmInstance
      (consume deployment.vmInstance (·.delete settings false))
      (consume deployment.vmInstance (·.delete settings true)) := by
    rcases deployment with ⟨none | target, disk, stemcell⟩
    · exact .refl (pure (none, Except.ok ()))
    · refine Instance.delete_spares.bind fun result => ?_
      cases result <;> exact blind_pure
  refine consumed.bind fun ⟨vmInstance, vmResult⟩ => ?_
  cases vmResult with
  | error error => exact blind_pure
  | ok _ =>
      refine (blind_consume blind_releaseCurrent).bind fun ⟨disk, diskResult⟩ => ?_
      cases diskResult with
      | error error => exact blind_pure
      | ok _ => exact (blind_consume blind_releaseCurrent).bind fun _ => blind_pure

theorem along_delayed {time : Duration} {trace : List (Event signature)}
    {stored after : Option Document} :
    surroundings.Along stored (trace.map (delayed time)) after ↔
      surroundings.Along stored trace after := by
  have step (state next : Option Document) (event : Event signature) :
      surroundings state (delayed time event) next ↔ surroundings state event next := by
    obtain ⟨request, answer⟩ := event
    cases request <;> rfl
  induction trace generalizing stored with
  | nil => rfl
  | cons event rest ih => simp only [List.map_cons, Conduct.Along, step, ih]

theorem along_drainStage {started time : Duration} {stored after : Option Document} :
    surroundings.Along stored (target.drainStage started time) after ↔ after = stored := by
  constructor
  · exact eq_of_along_aside (by simp [Instance.drainStage, Request.IsAside])
  · rintro rfl
    exact ⟨_, rfl, _, rfl, _, rfl, _, rfl, _, rfl, rfl⟩

theorem Spared.document {long short : Recorded signature α (Scene σ)} {start : Scene σ}
    (spared : Spared script held start long short) {stored after : Option Document} :
    surroundings.Along stored long.trace after ↔ surroundings.Along stored short.trace after := by
  cases spared with
  | same => rfl
  | drained target reached rest =>
      dsimp only [Lifecycle.behind, delayedRun]
      simp only [Conduct.along_append, along_drainStage, along_delayed, exists_eq_right']

end Spares

namespace Request

def IsDrain : Request → Prop
  | .drain _ => True
  | _ => False

theorem guest_of_drain {request : Request} (drain : request.IsDrain) : request.IsGuest := by
  cases request <;> first | exact drain.elim | exact ⟨trivial, id⟩

end Request

section Order

variable {trace : List (Event signature)} {deployment : Deployment} {settings : Settings}
  {skipDrain : Bool} {result : Except LifecycleError Unit}

open Request

/-- Stopping an instance calls its agent for what the plan says, and only after an answered ping. -/
theorem Instance.stop_calls {target : Instance}
    (run : (target.stop settings skipDrain).run.Yields trace result) :
    (guestCalls trace).map (·.request) <+: (stopPlan skipDrain).map (·.request) ∧
      ((∀ event ∈ trace, ¬ IsAnsweredPing event) →
        ∀ event ∈ trace, IsAgent event.request → IsPing event.request) := by
  obtain ⟨started, gate, ended, reachable, rest, rfl, waited, idle, working⟩ := gated_yields run
  have gated : Gate reachable (target.gateStage settings.ping started gate ended reachable) :=
    waited.stage
  cases reachable with
  | false =>
      obtain ⟨rfl, _⟩ := idle rfl
      rw [List.append_nil, gated.guestCalls_eq]
      refine ⟨List.nil_prefix, fun _ event member agent => ?_⟩
      exact (gated.calls event member).resolve_left fun quiet =>
        (Request.apart_of_quiet _ quiet).1 agent
  | true =>
      obtain ⟨event, member, answered⟩ := gated.answered.1 rfl
      rw [guestCalls_append, gated.guestCalls_eq, List.nil_append]
      exact ⟨(stopJobs_guided rest result (working rfl)).begins, fun silent =>
        absurd answered (silent event (List.mem_append_left _ member))⟩

/-- Stopping goes as far as a deletion does before it unmounts the disks. -/
theorem Deployment.stop_vmOrder
    (run : (deployment.stop settings skipDrain).run.Yields trace result) :
    VmOrder skipDrain trace := by
  obtain ⟨vmInstance, disk, stemcell⟩ := deployment
  cases vmInstance with
  | none =>
      obtain ⟨rfl, rfl⟩ := run
      exact .nil
  | some target =>
      have inside : ∀ event ∈ trace, event.request.IsInside :=
        (Instance.stop_asks (fun _ => .inl) (fun _ guest => .inr guest.1) (fun _ => .inr trivial)
          target settings skipDrain).trace run
      have unasked : ∀ event ∈ trace, ¬ IsUnknown event := by
        rintro ⟨request, answer⟩ member unknown
        cases request <;> first | exact unknown.elim | exact (inside _ member).not_vmCheck trivial
      have undeleted : ∀ early vm answer late,
          trace ≠ early ++ ⟨Request.delete .vm vm, answer⟩ :: late := by
        rintro early vm answer late rfl
        exact (inside ⟨.delete .vm vm, answer⟩ (by simp)).not_vmDeletion trivial
      obtain ⟨planned, unanswered⟩ := Instance.stop_calls run
      have further : (Instance.stopPlan skipDrain).map (·.request) <+:
          (Instance.emptyingPlan skipDrain []).map (·.request) :=
        ⟨_, List.map_append.symm⟩
      exact ⟨fun ⟨event, member, unknown⟩ => absurd unknown (unasked event member), unanswered,
        fun early vm answer late same => absurd same (undeleted early vm answer late),
        fun early vm answer late same => absurd same (undeleted early vm answer late),
        ⟨[], planned.trans further⟩⟩

theorem Instance.emptyingPlan_undrained (mounted : List (Cid .disk)) :
    ∀ event ∈ emptyingPlan true mounted, ¬ event.request.IsDrain := by
  simp [emptyingPlan, stopPlan, unmountPlan, IsDrain]

theorem VmOrder.undrained (order : VmOrder true trace) :
    ∀ event ∈ trace, ¬ event.request.IsDrain := by
  intro event member drains
  obtain ⟨mounted, planned⟩ := order.planned
  have guest : event.request.IsGuest := guest_of_drain drains
  have called : event ∈ guestCalls trace := List.mem_filter.2 ⟨member, decide_eq_true guest⟩
  obtain ⟨intended, within, same⟩ := List.mem_map.1 (planned.subset (List.mem_map_of_mem called))
  exact Instance.emptyingPlan_undrained mounted intended within (same ▸ drains)

end Order

/-- The second run is the first one without the drain. Nobody is drained in a VM in which nobody
answers, and then there is no difference. -/
structure SkipsDrain {σ α : Type} (script : Script σ) (held : Option Instance) (scene : Scene σ)
    (long short : Recorded signature α (Scene σ)) : Prop where
  spared : Spared script held scene long short
  undrained : ∀ event ∈ short.trace, ¬ event.request.IsDrain
  unattended : Unattended long.trace → long = short
  document : ∀ stored after,
    surroundings.Along stored long.trace after ↔ surroundings.Along stored short.trace after

section Calls

variable {σ α : Type} {script : Script σ} {held : Option Instance} {scene : Scene σ}
  {long short : Recorded signature α (Scene σ)}

theorem Spared.same_of_unattended (spared : Spared script held scene long short)
    (order : VmOrder false long.trace) (unattended : Unattended long.trace) : long = short := by
  cases spared with
  | same => rfl
  | drained target reached after =>
      have pings := order.pings_of_unattended unattended
      have drains := pings ⟨.drain drainReason, .ok ()⟩
        (by simp [Lifecycle.behind, Instance.drainStage])
      exact (drains trivial).elim

theorem Spared.skipsDrain (spared : Spared script held scene long short)
    (order : VmOrder false long.trace) (undrained : VmOrder true short.trace) :
    SkipsDrain script held scene long short :=
  ⟨spared, undrained.undrained, spared.same_of_unattended order, fun _ _ => spared.document⟩

/-- Whatever the surroundings do, as long as drains succeed, skipping the drain makes no difference
to a call but that there is none, and that all that comes after it happens earlier. -/
theorem drain_alone_skipped (script : Script σ) (scene : Scene σ) (deployment : Deployment)
    (settings : Settings) (call : Bool → Call) (stopsJobs : call = .stop ∨ call = .delete) :
    SkipsDrain script deployment.vmInstance scene
      (((call false).program settings deployment).record script.answer scene)
      (((call true).program settings deployment).record script.answer scene) := by
  have run (skipDrain : Bool) := @Prog.yields_record _ _ _ script.answer scene
    ((call skipDrain).program settings deployment)
  rcases stopsJobs with rfl | rfl
  · have stops := @Deployment.stop_spares σ script deployment settings
    exact ((stops.bind fun _ => blind_pure) scene).skipsDrain
      (Deployment.stop_vmOrder (yields_beside (run false)).2)
      (Deployment.stop_vmOrder (yields_beside (run true)).2)
  · exact (Deployment.delete_spares scene).skipsDrain (Deployment.delete_vmOrder (run false))
      (Deployment.delete_vmOrder (run true))

/-- A VM that does all it is called for, but that its provider refuses to delete. -/
def Script.undeletable (refusal : CloudError) (drainTime : Duration) : Script Unit where
  act
    | .ping _, _ => (.answered "pong", .zero, ())
    | .runScript .., _ | .drain _, _ | .stop, _ | .start, _ | .unmountDisk _, _ =>
      (.ok (), .zero, ())
    | .getState, _ => (.ok { jobState := "stopped" }, .zero, ())
    | .listDisk, _ => (.ok [], .zero, ())
    | .hasVm _, _ => (.ok true, .zero, ())
    | .delete .., _ => (.error refusal, .zero, ())
    | .store .load, _ => (.ok {}, .zero, ())
    | .store .read, _ => (.ok none, .zero, ())
    | .store (.save _), _ => (.ok (), .zero, ())
    | .store .freshId, _ => ("id-1", .zero, ())
    | .now, _ => (.zero, .zero, ())
    | .sleep _, _ | .stageBegun _, _ | .stageEnded .., _ => ((), .zero, ())
  drainTime _ := drainTime

theorem refused_deletion_drained : ∃ (refusal : CloudError) (deployment : Deployment)
    (long short : Recorded signature (Deployment × Except LifecycleError Unit) (Scene Unit)),
    long = ((Call.delete false).program {} deployment).record
      (Script.undeletable refusal (.ofSeconds 7)).answer ⟨.zero, ()⟩ ∧
    SkipsDrain (Script.undeletable refusal (.ofSeconds 7)) deployment.vmInstance ⟨.zero, ()⟩
      long short ∧
    long.value = (deployment, .error (.cloud refusal)) ∧
    long.state.clock = .ofSeconds 7 ∧ short.state.clock = .zero := by
  let refusal : CloudError := .timeout "delete_vm" (.ofSeconds 60)
  let deployment : Deployment := { vmInstance := some ⟨{}, ⟨"vm-1"⟩⟩ }
  let script := Script.undeletable refusal (.ofSeconds 7)
  have skips := drain_alone_skipped script ⟨.zero, ()⟩ deployment {} .delete (.inr rfl)
  exact ⟨refusal, deployment, _, _, rfl, skips, rfl, by decide +kernel, by decide +kernel⟩

end Calls

end DeploymentLifecycle.Lifecycle
