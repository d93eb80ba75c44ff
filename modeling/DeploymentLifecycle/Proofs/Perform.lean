import DeploymentLifecycle.Proofs.Run

namespace DeploymentLifecycle.Prog

/-! Programs that are answered out of a state. -/

variable {S : Signature} {σ τ α β ε : Type}
  {answer : (request : S.Request) → StateM σ (S.Answer request)} {state after : σ}

theorem bind_assoc {γ : Type} (program : Prog S α) (next : α → Prog S β) (last : β → Prog S γ) :
    (program.bind next).bind last = program.bind fun value => (next value).bind last := by
  induction program with
  | done value => rfl
  | ask request go ih => exact congrArg (Prog.ask request) (funext ih)

theorem bind_done (program : Prog S α) : program.bind .done = program := by
  induction program with
  | done value => rfl
  | ask request go ih => exact congrArg (Prog.ask request) (funext ih)

instance : LawfulMonad (Prog S) :=
  LawfulMonad.mk' (Prog S) bind_done (fun _ _ => rfl) bind_assoc

/-- What a program comes to, and the state that its answers leave. -/
def perform (answer : (request : S.Request) → StateM σ (S.Answer request)) (program : Prog S α)
    (state : σ) : α × σ :=
  (program.run answer).run state

theorem perform_bind {program : Prog S α} {next : α → Prog S β} {value : α}
    (first : program.perform answer state = (value, after)) :
    (program >>= next).perform answer state = (next value).perform answer after := by
  change (program.bind next).perform answer state = _
  induction program generalizing state with
  | done result =>
      cases first
      rfl
  | ask request go ih => exact ih ((answer request).run state).1 first

theorem perform_exceptBind {program : ExceptT ε (Prog S) α} {next : α → ExceptT ε (Prog S) β}
    {value : α} (first : program.run.perform answer state = (.ok value, after)) :
    (program >>= next).run.perform answer state = (next value).run.perform answer after := by
  rw [ExceptT.run_bind, perform_bind first]

theorem perform_exceptBind_error {program : ExceptT ε (Prog S) α}
    {next : α → ExceptT ε (Prog S) β} {error : ε}
    (first : program.run.perform answer state = (.error error, after)) :
    (program >>= next).run.perform answer state = (.error error, after) := by
  rw [ExceptT.run_bind, perform_bind first]
  rfl

theorem exists_of_perform_exceptBind {program : ExceptT ε (Prog S) α}
    {next : α → ExceptT ε (Prog S) β} {result : β}
    (whole : (program >>= next).run.perform answer state = (.ok result, after)) :
    ∃ value middle, program.run.perform answer state = (.ok value, middle) ∧
      (next value).run.perform answer middle = (.ok result, after) := by
  rcases first : program.run.perform answer state with ⟨outcome | value, middle⟩
  · rw [perform_exceptBind_error first] at whole
    cases whole
  · exact ⟨value, middle, rfl, by rwa [perform_exceptBind first] at whole⟩

/-- What a run asked for, what it came to, and the state that its answers left. -/
structure Recorded (S : Signature) (α σ : Type) where
  trace : List (Event S)
  value : α
  state : σ

def record (answer : (request : S.Request) → StateM σ (S.Answer request)) :
    Prog S α → σ → Recorded S α σ
  | .done value, state => ⟨[], value, state⟩
  | .ask request next, state =>
    let reply := (answer request).run state
    let rest := (next reply.1).record answer reply.2
    { rest with trace := ⟨request, reply.1⟩ :: rest.trace }

theorem record_bind {program : Prog S α} {next : α → Prog S β} :
    (program >>= next).record answer state =
      let first := program.record answer state
      let rest := (next first.value).record answer first.state
      { rest with trace := first.trace ++ rest.trace } := by
  change (program.bind next).record answer state = _
  induction program generalizing state with
  | done result => rfl
  | ask request go ih => simp only [Prog.bind, record, ih, List.cons_append]

theorem record_exceptBind {program : ExceptT ε (Prog S) α} {value : α}
    (next : α → ExceptT ε (Prog S) β)
    (found : (program.run.record answer state).value = .ok value) :
    (program >>= next).run.record answer state =
      let first := program.run.record answer state
      let rest := (next value).run.record answer first.state
      { rest with trace := first.trace ++ rest.trace } := by
  rw [ExceptT.run_bind, record_bind]
  dsimp only
  rw [found]

theorem yields_record (program : Prog S α) :
    program.Yields (program.record answer state).trace (program.record answer state).value := by
  induction program generalizing state with
  | done value => exact ⟨rfl, rfl⟩
  | ask request next ih => exact ⟨_, _, rfl, ih _⟩

/-- The surroundings give these answers, and leave these states. -/
def answering (answer : (request : S.Request) → StateM σ (S.Answer request)) : Conduct S σ :=
  fun before event after => (answer event.request).run before = (event.answer, after)

theorem along_record (program : Prog S α) :
    (answering answer).Along state (program.record answer state).trace
      (program.record answer state).state := by
  induction program generalizing state with
  | done value => rfl
  | ask request next ih => exact ⟨_, rfl, ih _⟩

theorem record_perform {program : Prog S α} :
    program.perform answer state =
      ((program.record answer state).value, (program.record answer state).state) := by
  induction program generalizing state with
  | done value => rfl
  | ask request next ih => exact ih _

end DeploymentLifecycle.Prog
