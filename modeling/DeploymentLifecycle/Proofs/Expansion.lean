import DeploymentLifecycle.Proofs.Perform

namespace DeploymentLifecycle.Prog

/-! Programs whose requests are answered by programs. A run of the whole is a run of the program,
each event of it expanded into a run of the program that answered. -/

variable {S T : Signature} {α β : Type}
  {answer : (request : S.Request) → Prog T (S.Answer request)}

variable (answer) in
/-- The trace is made of runs of the answers that were given, in the order of the events. -/
def Expands : List (Event S) → List (Event T) → Prop
  | [], trace => trace = []
  | event :: told, trace =>
    ∃ here rest, trace = here ++ rest ∧ (answer event.request).Yields here event.answer ∧
      Expands told rest

theorem yields_interpret {program : Prog S α} {trace : List (Event T)} {result : α} :
    (program.interpret answer).Yields trace result ↔
      ∃ told, program.Yields told result ∧ Expands answer told trace := by
  induction program generalizing trace with
  | done value =>
      constructor
      · rintro ⟨rfl, rfl⟩
        exact ⟨[], ⟨rfl, rfl⟩, rfl⟩
      · rintro ⟨_, ⟨rfl, rfl⟩, rfl⟩
        exact ⟨rfl, rfl⟩
  | ask request next ih =>
      change (answer request >>= fun reply => (next reply).interpret answer).Yields trace result ↔ _
      rw [yields_bind]
      constructor
      · rintro ⟨reply, here, rest, rfl, answered, later⟩
        obtain ⟨told, run, expands⟩ := (ih reply).1 later
        exact ⟨⟨request, reply⟩ :: told, ⟨reply, told, rfl, run⟩,
          here, rest, rfl, answered, expands⟩
      · rintro ⟨_, ⟨reply, told, rfl, run⟩, here, rest, rfl, answered, expands⟩
        exact ⟨reply, here, rest, rfl, answered, (ih reply).2 ⟨told, run, expands⟩⟩

theorem interpret_bind {program : Prog S α} {next : α → Prog S β} :
    (program >>= next).interpret answer =
      program.interpret answer >>= fun value => (next value).interpret answer := by
  change (program.bind next).interpret answer = _
  induction program with
  | done value => rfl
  | ask request go ih =>
      change (answer request >>= fun reply => ((go reply).bind next).interpret answer) = _
      simp only [ih]
      exact (bind_assoc (answer request) _ _).symm

/-- The same of programs that may end in an error, which becomes another one. -/
theorem interpret_exceptBind {ε δ : Type} {convert : ε → δ} {program : ExceptT ε (Prog S) α}
    {next : α → ExceptT ε (Prog S) β} :
    (ExceptT.mk do return ((← (program >>= next).run.interpret answer).mapError convert) :
        ExceptT δ (Prog T) β) =
      (ExceptT.mk do return (← program.run.interpret answer).mapError convert) >>= fun value =>
        ExceptT.mk do return (← (next value).run.interpret answer).mapError convert := by
  apply ExceptT.ext
  simp only [ExceptT.run_bind, ExceptT.run_mk, interpret_bind,
    LawfulMonad.bind_assoc, pure_bind]
  refine bind_congr fun result => ?_
  cases result with
  | ok value => rfl
  | error error => rfl

end DeploymentLifecycle.Prog
