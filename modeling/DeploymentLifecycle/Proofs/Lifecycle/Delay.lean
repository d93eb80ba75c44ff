import DeploymentLifecycle.Proofs.Lifecycle.Clock
import DeploymentLifecycle.Proofs.Lifecycle.Stages
import DeploymentLifecycle.Proofs.Perform

namespace DeploymentLifecycle.Lifecycle

/-! The same run at a later time. Operations look at the clock, but apart from their waits they do
so only to report how long something took, and that does not depend on when it began. -/

open Prog (Recorded)

/-- Surroundings that follow a script, with the time that they have taken so far. -/
structure Scene (σ : Type) where
  clock : Duration
  others : σ

/-- What is answered to a request, what time that takes beyond the time that is known to pass, and
what becomes of the surroundings. A drain has a time of its own: it succeeds, and nothing else comes
of it. -/
structure Script (σ : Type) where
  act : (request : Request) → σ → Answer request × Duration × σ
  drainTime : σ → Duration

/-- Looks at the clock and reports take no time. -/
def Script.answer {σ : Type} (script : Script σ) :
    (request : signature.Request) → StateM (Scene σ) (signature.Answer request)
  | .now => fun scene => (scene.clock, scene)
  | .stageBegun _ | .stageEnded .. => fun scene => ((), scene)
  | .drain _ => fun scene =>
    (.ok (), { scene with clock := scene.clock + script.drainTime scene.others })
  | request => fun scene =>
    let (answer, time, others) := script.act request scene.others
    (answer, ⟨scene.clock + elapses ⟨request, answer⟩ + time, others⟩)

section Delay

variable {σ α β : Type}

def Scene.delayed (time : Duration) (scene : Scene σ) : Scene σ :=
  { scene with clock := scene.clock + time }

/-- The same event at a later time. -/
def delayed (time : Duration) : Event signature → Event signature
  | ⟨.now, reading⟩ => ⟨.now, (show Duration from reading) + time⟩
  | event => event

/-- The same run at a later time. -/
def delayedRun (time : Duration) (run : Recorded signature α (Scene σ)) :
    Recorded signature α (Scene σ) :=
  ⟨run.trace.map (delayed time), run.value, run.state.delayed time⟩

/-- When a program is run makes no difference to it. -/
def Blind (script : Script σ) (program : Prog signature α) : Prop :=
  ∀ time scene, program.record script.answer (scene.delayed time) =
    delayedRun time (program.record script.answer scene)

variable {script : Script σ}

theorem blind_pure {value : α} : Blind script (pure value) := fun _ _ => rfl

theorem Blind.bind {program : Prog signature α} {next : α → Prog signature β}
    (first : Blind script program) (rest : ∀ value, Blind script (next value)) :
    Blind script (program >>= next) := by
  intro time scene
  simp only [Prog.record_bind, first time scene, delayedRun, rest _ time, List.map_append]

theorem Blind.exceptBind {ε : Type} {program : ExceptT ε (Prog signature) α}
    {next : α → ExceptT ε (Prog signature) β} (first : Blind script program.run)
    (rest : ∀ value, Blind script (next value).run) : Blind script (program >>= next).run := by
  rw [ExceptT.run_bind]
  refine first.bind fun result => ?_
  cases result with
  | ok value => exact rest value
  | error error => exact blind_pure

def Request.ReadsClock : Request → Prop
  | .now => True
  | _ => False

theorem answer_delayed {request : signature.Request} (unread : ¬ Request.ReadsClock request)
    (time : Duration) (scene : Scene σ) :
    (script.answer request).run (scene.delayed time) =
      let reply := (script.answer request).run scene
      (reply.1, reply.2.delayed time) := by
  have drained (taken : Duration) : scene.clock + time + taken = scene.clock + taken + time :=
    Duration.eq_of_nanos (Nat.add_right_comm ..)
  have acted (known taken : Duration) :
      scene.clock + time + known + taken = scene.clock + known + taken + time :=
    Duration.eq_of_nanos (by simp only [Duration.nanos_add]; omega)
  cases request with
  | now => exact absurd trivial unread
  | stageBegun | stageEnded => rfl
  | drain reason => exact Prod.ext rfl (congrArg (Scene.mk · _) (drained _))
  | _ => exact Prod.ext rfl (congrArg (Scene.mk · _) (acted _ _))

theorem delayed_of_unread {request : signature.Request} (unread : ¬ Request.ReadsClock request)
    (time : Duration) (answer : signature.Answer request) :
    delayed time ⟨request, answer⟩ = ⟨request, answer⟩ := by
  cases request <;> first | rfl | exact absurd trivial unread

theorem blind_of_asks {program : Prog signature α}
    (asks : program.Asks fun request : Request => ¬ request.ReadsClock) : Blind script program := by
  induction program with
  | done value => exact blind_pure
  | ask request next ih =>
      obtain ⟨unread, rest⟩ := asks
      intro time scene
      simp only [Prog.record, answer_delayed unread, ih _ (rest _) time, delayedRun,
        List.map_cons, delayed_of_unread unread]

/-- A stage is reported with what the clock shows at its beginning and at its end. -/
theorem record_stage {label : String} {work : Program Step} {scene : Scene σ} :
    (perform label work).run.record script.answer scene =
      let worked := work.run.record script.answer scene
      ⟨⟨.stageBegun label, ()⟩ :: ⟨.now, scene.clock⟩ :: (worked.trace ++
        [⟨.now, worked.state.clock⟩, ⟨.stageEnded label (.ofResult worked.value)
          (worked.state.clock - scene.clock), ()⟩]), worked.value.map fun _ => (),
        worked.state⟩ := by
  rcases worked : work.run.record script.answer scene with ⟨trace, value, last⟩
  have begins : (ask (.stageBegun label)).record script.answer scene =
    ⟨[⟨.stageBegun label, ()⟩], (), scene⟩ := rfl
  have reads (now : Scene σ) : (ask .now).record script.answer now =
    ⟨[⟨.now, now.clock⟩], now.clock, now⟩ := rfl
  simp only [perform, ExceptT.run_mk, Prog.record_bind, begins, reads, worked]
  cases value <;> rfl

theorem Blind.stage {label : String} {work : Program Step} (blind : Blind script work.run) :
    Blind script (perform label work).run := by
  intro time scene
  have lasted (ended : Duration) :
      (ended + time) - (scene.clock + time) = ended - scene.clock :=
    Duration.eq_of_nanos (Nat.add_sub_add_right ..)
  rw [record_stage, record_stage, blind time scene]
  simp only [delayedRun, Scene.delayed, List.map_cons, List.map_append, List.map_nil, delayed]
  rw [lasted]

theorem blind_agentStage {label : String} {call : Prog signature (Except AgentError Unit)}
    (asks : call.Asks fun request : Request => ¬ request.ReadsClock) :
    Blind script (agentStage label call).run :=
  ((blind_of_asks (agentCall_asks asks)).exceptBind fun _ => blind_pure).stage

theorem blind_unmountDisks : Blind script Instance.unmountDisks.run := by
  refine (blind_of_asks (agentCall_asks (asks_ask.2 id))).exceptBind fun mounted => ?_
  induction mounted with
  | nil => exact blind_pure
  | cons disk rest ih => exact (blind_agentStage (asks_ask.2 id)).exceptBind fun _ => ih

theorem blind_deleteVm (target : Instance) : Blind script target.deleteVm.run :=
  (blind_of_asks (deletionWork_asks (fun _ => id) id fun deletion => by
    cases deletion <;> trivial)).stage

theorem blind_release {kind : Kind} (label : String) (record : Record kind) :
    Blind script (release label record).run :=
  (blind_of_asks (deletionWork_asks (fun _ => id) id fun deletion => by
    cases deletion <;> trivial)).stage

theorem blind_releaseCurrent {kind : Kind} (record : Record kind) :
    Blind script (releaseCurrent record).run := by
  refine (blind_of_asks (stored_asks fun _ => id)).exceptBind fun current => ?_
  cases current with
  | none => exact blind_pure
  | some current =>
      dsimp only
      split
      · exact blind_release _ _
      · exact blind_pure

theorem blind_consume {handle : Option β} {delete : β → Program Unit}
    (blind : ∀ held, Blind script (delete held).run) :
    Blind script (Deployment.consume handle delete) := by
  cases handle with
  | none => exact blind_pure
  | some held =>
      refine (blind held).bind fun result => ?_
      cases result <;> exact blind_pure

end Delay

end DeploymentLifecycle.Lifecycle
