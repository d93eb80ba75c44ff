import DeploymentLifecycle.Effect

namespace DeploymentLifecycle

/-! What programs do when it is not known who answers them. A run is a trace of requests with the
answers that were given. The surroundings are known by their conduct alone: the answers they may
give in a state, and the state this leaves behind. -/

structure Event (S : Signature) where
  request : S.Request
  answer : S.Answer request

/-- The events that surroundings may take part in, with their state before and after. -/
abbrev Conduct (S : Signature) (σ : Type) := σ → Event S → σ → Prop

namespace Conduct

variable {S : Signature} {σ : Type} {conduct : Conduct S σ} {first rest : List (Event S)}
  {state after : σ}

/-- The surroundings may take part in these events, one after the other. -/
def Along (conduct : Conduct S σ) : σ → List (Event S) → σ → Prop
  | state, [], after => after = state
  | state, event :: rest, after =>
    ∃ middle, conduct state event middle ∧ conduct.Along middle rest after

theorem along_append :
    conduct.Along state (first ++ rest) after ↔
      ∃ middle, conduct.Along state first middle ∧ conduct.Along middle rest after := by
  induction first generalizing state with
  | nil => simp [Along]
  | cons event first ih =>
      simp only [List.cons_append, Along, ih]
      constructor
      · intro run
        obtain ⟨next, step, middle, early, late⟩ := run
        exact ⟨middle, ⟨next, step, early⟩, late⟩
      · intro run
        obtain ⟨middle, ⟨next, step, early⟩, late⟩ := run
        exact ⟨next, step, middle, early, late⟩

theorem Along.project {other : Conduct S τ} {view : σ → τ} {trace : List (Event S)}
    (along : conduct.Along state trace after)
    (part : ∀ before event next, conduct before event next →
      other (view before) event (view next)) :
    other.Along (view state) trace (view after) := by
  induction trace generalizing state with
  | nil => rw [show after = state from along, Along]
  | cons event rest ih =>
      obtain ⟨middle, step, late⟩ := along
      exact ⟨view middle, part state event middle step, ih late⟩

theorem Along.forall {holds : Event S → Prop} {trace : List (Event S)}
    (along : conduct.Along state trace after)
    (each : ∀ before event next, conduct before event next → holds event) :
    ∀ event ∈ trace, holds event := by
  induction trace generalizing state with
  | nil => simp
  | cons event rest ih =>
      obtain ⟨middle, step, late⟩ := along
      exact List.forall_mem_cons.2 ⟨each state event middle step, ih late⟩

end Conduct

namespace Prog

variable {S : Signature} {σ α β ε : Type} {trace : List (Event S)}

/-- Given the answers of the trace, the program makes its requests and comes to the result. -/
def Yields : Prog S α → List (Event S) → α → Prop
  | .done value, trace, result => trace = [] ∧ result = value
  | .ask request next, trace, result =>
    ∃ answer rest, trace = ⟨request, answer⟩ :: rest ∧ (next answer).Yields rest result

@[simp]
theorem yields_pure {value result : α} :
    (pure value : Prog S α).Yields trace result ↔ trace = [] ∧ result = value := Iff.rfl

@[simp]
theorem yields_request {request : S.Request} {result : S.Answer request} :
    (Prog.request request).Yields trace result ↔ trace = [⟨request, result⟩] := by
  constructor
  · intro run
    obtain ⟨answer, rest, rfl, rfl, rfl⟩ := run
    rfl
  · intro same
    subst same
    exact ⟨result, [], rfl, rfl, rfl⟩

theorem yields_bind {program : Prog S α} {next : α → Prog S β} {result : β} :
    (program >>= next).Yields trace result ↔
      ∃ value first rest, trace = first ++ rest ∧ program.Yields first value ∧
        (next value).Yields rest result := by
  change (program.bind next).Yields trace result ↔ _
  induction program generalizing trace with
  | done value =>
      constructor
      · intro run
        exact ⟨value, [], trace, rfl, ⟨rfl, rfl⟩, run⟩
      · intro yields
        obtain ⟨_, _, rest, rfl, ⟨rfl, rfl⟩, run⟩ := yields
        exact run
  | ask request go ih =>
      constructor
      · intro yields
        obtain ⟨answer, tail, rfl, run⟩ := yields
        obtain ⟨value, first, rest, rfl, start, finish⟩ := (ih answer).1 run
        have starts : (Prog.ask request go).Yields (⟨request, answer⟩ :: first) value :=
          ⟨answer, first, rfl, start⟩
        exact ⟨value, ⟨request, answer⟩ :: first, rest, rfl, starts, finish⟩
      · intro yields
        obtain ⟨value, _, rest, rfl, ⟨answer, first, rfl, start⟩, finish⟩ := yields
        have continued := (ih answer).2 ⟨value, first, rest, rfl, start, finish⟩
        exact ⟨answer, first ++ rest, rfl, continued⟩

theorem yields_exceptBind {program : ExceptT ε (Prog S) α} {next : α → ExceptT ε (Prog S) β}
    {result : Except ε β} :
    (program >>= next).run.Yields trace result ↔
      (∃ error, result = .error error ∧ program.run.Yields trace (.error error)) ∨
        ∃ value first rest, trace = first ++ rest ∧ program.run.Yields first (.ok value) ∧
          (next value).run.Yields rest result := by
  rw [ExceptT.run_bind, yields_bind]
  constructor
  · intro run
    rcases run with ⟨outcome | outcome, first, rest, rfl, start, finish⟩
    · obtain ⟨rfl, rfl⟩ := finish
      exact .inl ⟨outcome, rfl, by simpa using start⟩
    · exact .inr ⟨outcome, first, rest, rfl, start, finish⟩
  · intro run
    rcases run with ⟨error, rfl, run⟩ | ⟨value, first, rest, rfl, start, finish⟩
    · exact ⟨.error error, trace, [], by simp, run, rfl, rfl⟩
    · exact ⟨.ok value, first, rest, rfl, start, finish⟩

@[simp]
theorem yields_lift {program : Prog S α} {result : α} :
    (ExceptT.lift program : ExceptT ε (Prog S) α).run.Yields trace (.ok result) ↔
      program.Yields trace result := by
  change (program >>= fun value => pure (Except.ok value)).Yields trace (Except.ok result) ↔ _
  rw [yields_bind]
  constructor
  · intro run
    obtain ⟨value, first, rest, rfl, start, rfl, same⟩ := run
    obtain rfl := Except.ok.inj same
    simpa using start
  · intro run
    exact ⟨result, trace, [], by simp, run, rfl, rfl⟩

/-- The answers decide what a program comes to. -/
theorem Yields.unique {program : Prog S α} {result other : α} (run : program.Yields trace result)
    (again : program.Yields trace other) : other = result := by
  induction program generalizing trace with
  | done value => exact again.2.trans run.2.symm
  | ask request next ih =>
      obtain ⟨answer, rest, rfl, run⟩ := run
      obtain ⟨_, _, same, again⟩ := again
      cases same
      exact ih answer run again

theorem exists_run {conduct : Conduct S σ} {good : Event S → Prop}
    (answers : ∀ state request, ∃ answer after,
      conduct state ⟨request, answer⟩ after ∧ good ⟨request, answer⟩)
    (program : Prog S α) (state : σ) :
    ∃ trace result after, program.Yields trace result ∧ conduct.Along state trace after ∧
      ∀ event ∈ trace, good event := by
  induction program generalizing state with
  | done value => exact ⟨[], value, state, ⟨rfl, rfl⟩, rfl, by simp⟩
  | ask request next ih =>
      obtain ⟨answer, middle, step, first⟩ := answers state request
      obtain ⟨trace, result, after, run, along, rest⟩ := ih answer middle
      exact ⟨⟨request, answer⟩ :: trace, result, after, ⟨answer, trace, rfl, run⟩,
        ⟨middle, step, along⟩, by simpa using ⟨first, rest⟩⟩

theorem exists_idle {conduct : Conduct S σ} {state : σ}
    (still : ∀ request, ∃ answer, conduct state ⟨request, answer⟩ state) (program : Prog S α) :
    ∃ trace result, program.Yields trace result ∧ conduct.Along state trace state := by
  induction program with
  | done value => exact ⟨[], value, ⟨rfl, rfl⟩, rfl⟩
  | ask request next ih =>
      obtain ⟨answer, step⟩ := still request
      obtain ⟨trace, result, run, along⟩ := ih answer
      exact ⟨⟨request, answer⟩ :: trace, result, ⟨answer, trace, rfl, run⟩, ⟨state, step, along⟩⟩

/-- If the surroundings may leave their state alone from some moment of a run on, the run can come
to an end in the state of that moment. -/
theorem exists_completion {conduct : Conduct S σ} {program : Prog S α}
    {early late : List (Event S)} {result : α} {state now : σ}
    (still : ∀ request, ∃ answer, conduct now ⟨request, answer⟩ now)
    (run : program.Yields (early ++ late) result) (along : conduct.Along state early now) :
    ∃ rest outcome, program.Yields (early ++ rest) outcome ∧
      conduct.Along state (early ++ rest) now := by
  induction early generalizing program state with
  | nil =>
      obtain rfl : now = state := along
      exact exists_idle still program
  | cons event early ih =>
      obtain ⟨middle, step, along⟩ := along
      cases program with
      | done value => exact absurd run.1 (by simp)
      | ask request next =>
          obtain ⟨answer, tail, same, run⟩ := run
          obtain ⟨rfl, rfl⟩ := List.cons.inj same
          obtain ⟨rest, outcome, completed, still⟩ := ih run along
          exact ⟨rest, outcome, ⟨answer, early ++ rest, rfl, completed⟩, ⟨middle, step, still⟩⟩

end Prog

/-! Programs by what they may ask for at all. -/

namespace Prog

variable {S : Signature} {σ α β ε : Type} {only : S.Request → Prop}

/-- Whatever the answers are, the program asks for nothing else. -/
def Asks (only : S.Request → Prop) : Prog S α → Prop
  | .done _ => True
  | .ask request next => only request ∧ ∀ answer, (next answer).Asks only

@[simp]
theorem asks_pure {value : α} : (pure value : Prog S α).Asks only := trivial

@[simp]
theorem asks_request {request : S.Request} : (Prog.request request).Asks only ↔ only request :=
  ⟨And.left, fun allowed => ⟨allowed, fun _ => trivial⟩⟩

theorem Asks.bind {program : Prog S α} {next : α → Prog S β}
    (first : program.Asks only) (rest : ∀ value, (next value).Asks only) :
    (program >>= next).Asks only := by
  change (program.bind next).Asks only
  induction program with
  | done value => exact rest value
  | ask request go ih => exact ⟨first.1, fun answer => ih answer (first.2 answer)⟩

theorem Asks.exceptBind {program : ExceptT ε (Prog S) α} {next : α → ExceptT ε (Prog S) β}
    (first : program.run.Asks only) (rest : ∀ value, (next value).run.Asks only) :
    (program >>= next).run.Asks only := by
  rw [ExceptT.run_bind]
  refine first.bind fun outcome => ?_
  cases outcome with
  | ok value => exact rest value
  | error error => trivial

theorem Asks.trace {program : Prog S α} {trace : List (Event S)} {result : α}
    (asks : program.Asks only) (run : program.Yields trace result) :
    ∀ event ∈ trace, only event.request := by
  induction program generalizing trace with
  | done value => simp [run.1]
  | ask request next ih =>
      obtain ⟨answer, rest, rfl, run⟩ := run
      simpa using ⟨asks.1, ih answer (asks.2 answer) run⟩

end Prog

/-! What holds at every request of a program and at its end. -/

/-- The terms between a program and its surroundings: what may be asked for in a state, and how
the surroundings conduct themselves. -/
structure Terms (S : Signature) (σ : Type) where
  mayAsk : σ → S.Request → Prop
  conduct : Conduct S σ

namespace Prog

variable {S : Signature} {σ α β ε : Type} {terms : Terms S σ} {state after : σ}

/-- As long as the surroundings keep to the terms, the program asks only for what it may ask for,
and its end meets the goal. -/
def Keeps (terms : Terms S σ) : Prog S α → σ → (α → σ → Prop) → Prop
  | .done value, state, goal => goal value state
  | .ask request next, state, goal =>
    terms.mayAsk state request ∧
      ∀ answer after, terms.conduct state ⟨request, answer⟩ after →
        (next answer).Keeps terms after goal

@[simp]
theorem keeps_pure {value : α} {goal : α → σ → Prop} :
    (pure value : Prog S α).Keeps terms state goal ↔ goal value state := Iff.rfl

@[simp]
theorem keeps_request {request : S.Request} {goal : S.Answer request → σ → Prop} :
    (Prog.request request).Keeps terms state goal ↔ terms.mayAsk state request ∧
      ∀ answer after, terms.conduct state ⟨request, answer⟩ after → goal answer after := Iff.rfl

theorem keeps_bind {program : Prog S α} {next : α → Prog S β} {goal : β → σ → Prop} :
    (program >>= next).Keeps terms state goal ↔
      program.Keeps terms state fun value after => (next value).Keeps terms after goal := by
  change (program.bind next).Keeps terms state goal ↔ _
  induction program generalizing state with
  | done value => rfl
  | ask request go ih => simp only [Prog.bind, Keeps, ih]

theorem Keeps.weaken {program : Prog S α} {goal weaker : α → σ → Prop}
    (keeps : program.Keeps terms state goal)
    (implies : ∀ value after, goal value after → weaker value after) :
    program.Keeps terms state weaker := by
  induction program generalizing state with
  | done value => exact implies value state keeps
  | ask request next ih =>
      exact ⟨keeps.1, fun answer after step => ih answer (keeps.2 answer after step)⟩

theorem Keeps.bind {program : Prog S α} {next : α → Prog S β} {middle : α → σ → Prop}
    {goal : β → σ → Prop} (first : program.Keeps terms state middle)
    (rest : ∀ value after, middle value after → (next value).Keeps terms after goal) :
    (program >>= next).Keeps terms state goal :=
  keeps_bind.2 (first.weaken rest)

theorem Keeps.exceptBind {program : ExceptT ε (Prog S) α} {next : α → ExceptT ε (Prog S) β}
    {middle : Except ε α → σ → Prop} {goal : Except ε β → σ → Prop}
    (first : program.run.Keeps terms state middle)
    (rest : ∀ value after, middle (.ok value) after → (next value).run.Keeps terms after goal)
    (failed : ∀ error after, middle (.error error) after → goal (.error error) after) :
    (program >>= next).run.Keeps terms state goal := by
  rw [ExceptT.run_bind]
  refine first.bind fun outcome after reached => ?_
  cases outcome with
  | ok value => exact rest value after reached
  | error error => exact failed error after reached

/-- What is to hold at the end of a success, and what at the end of a failure. -/
def ByResult (succeeded : α → σ → Prop) (failed : ε → σ → Prop) : Except ε α → σ → Prop
  | .ok value, after => succeeded value after
  | .error error, after => failed error after

theorem Keeps.byResult {program : ExceptT ε (Prog S) α} {goal : Except ε α → σ → Prop}
    {succeeded : α → σ → Prop} {failed : ε → σ → Prop} (keeps : program.run.Keeps terms state goal)
    (onSuccess : ∀ value after, goal (.ok value) after → succeeded value after)
    (onFailure : ∀ error after, goal (.error error) after → failed error after) :
    program.run.Keeps terms state (ByResult succeeded failed) := by
  apply keeps.weaken
  intro result after ends
  cases result with
  | ok value => exact onSuccess value after ends
  | error error => exact onFailure error after ends

/-- A loop keeps to the terms when each round takes an invariant of the items left to the next. -/
theorem keeps_forM {items : List β} {act : β → ExceptT ε (Prog S) Unit}
    {goal : Except ε Unit → σ → Prop} (invariant : List β → σ → Prop)
    (start : invariant items state)
    (step : ∀ item rest now, invariant (item :: rest) now → (act item).run.Keeps terms now
      (ByResult (fun _ => invariant rest) fun error => goal (.error error)))
    (ends : ∀ now, invariant [] now → goal (.ok ()) now) :
    (items.forM act).run.Keeps terms state goal := by
  induction items generalizing state with
  | nil => exact ends state start
  | cons item rest ih =>
      have round := step item rest state start
      exact round.exceptBind (fun _ _ reached => ih reached) fun _ _ failed => failed

theorem Keeps.ends {program : Prog S α} {goal : α → σ → Prop} {trace : List (Event S)}
    {result : α} (keeps : program.Keeps terms state goal) (run : program.Yields trace result)
    (along : terms.conduct.Along state trace after) : goal result after := by
  induction program generalizing state trace with
  | done value =>
      obtain ⟨rfl, rfl⟩ := run
      obtain rfl : after = state := along
      exact keeps
  | ask request next ih =>
      obtain ⟨answer, rest, rfl, run⟩ := run
      obtain ⟨middle, step, along⟩ := along
      exact ih answer (keeps.2 answer middle step) run along

theorem Keeps.asks {program : Prog S α} {goal : α → σ → Prop} {early late : List (Event S)}
    {event : Event S} {result : α} {now : σ} (keeps : program.Keeps terms state goal)
    (run : program.Yields (early ++ event :: late) result)
    (along : terms.conduct.Along state early now) : terms.mayAsk now event.request := by
  induction program generalizing state early with
  | done value => exact absurd run.1 (by simp)
  | ask request next ih =>
      obtain ⟨answer, rest, same, run⟩ := run
      cases early with
      | nil =>
          obtain rfl : now = state := along
          obtain ⟨rfl, -⟩ := List.cons.inj same
          exact keeps.1
      | cons first early =>
          obtain ⟨rfl, rfl⟩ := List.cons.inj same
          obtain ⟨middle, step, along⟩ := along
          exact ih answer (keeps.2 answer middle step) run along

theorem Keeps.asks_of_mem {program : Prog S α} {goal : α → σ → Prop} {trace : List (Event S)}
    {event : Event S} {result : α} (keeps : program.Keeps terms state goal)
    (run : program.Yields trace result) (along : terms.conduct.Along state trace after)
    (member : event ∈ trace) : ∃ now, terms.mayAsk now event.request := by
  obtain ⟨early, late, rfl⟩ := List.append_of_mem member
  obtain ⟨now, earlier, _⟩ := Conduct.along_append.1 along
  exact ⟨now, keeps.asks run earlier⟩

end Prog

/-! Programs that a failure brings to an end. -/

/-- How a program deals with failures: which events are failures, what it still asks for after
one, and which results are successes. -/
structure FailurePolicy (S : Signature) (α : Type) where
  fails : Event S → Prop
  tidy : S.Request → Prop
  success : α → Prop

namespace FailurePolicy

variable {S : Signature} {α β : Type}

def of (policy : FailurePolicy S α) (success : β → Prop) : FailurePolicy S β :=
  { policy with success }

end FailurePolicy

namespace Prog

variable {S : Signature} {α β : Type} {policy : FailurePolicy S α} {success : β → Prop}

/-- All that is left is to tidy up, and there will be no success. -/
def GivesUp (policy : FailurePolicy S α) : Prog S α → Prop
  | .done value => ¬ policy.success value
  | .ask request next => policy.tidy request ∧ ∀ answer, (next answer).GivesUp policy

/-- The program succeeds if nothing fails, and gives up as soon as something does. -/
def StopsAtFailure (policy : FailurePolicy S α) : Prog S α → Prop
  | .done value => policy.success value
  | .ask request next => ∀ answer,
      (policy.fails ⟨request, answer⟩ → (next answer).GivesUp policy) ∧
      (¬ policy.fails ⟨request, answer⟩ → (next answer).StopsAtFailure policy)

theorem GivesUp.bind {program : Prog S α} {next : α → Prog S β} (first : program.GivesUp policy)
    (failed : ∀ value, ¬ policy.success value → (next value).GivesUp (policy.of success)) :
    (program >>= next).GivesUp (policy.of success) := by
  change (program.bind next).GivesUp _
  induction program with
  | done value => exact failed value first
  | ask request go ih => exact ⟨first.1, fun answer => ih answer (first.2 answer)⟩

theorem StopsAtFailure.bind {program : Prog S α} {next : α → Prog S β}
    (first : program.StopsAtFailure policy)
    (rest : ∀ value, policy.success value → (next value).StopsAtFailure (policy.of success))
    (failed : ∀ value, ¬ policy.success value → (next value).GivesUp (policy.of success)) :
    (program >>= next).StopsAtFailure (policy.of success) := by
  change (program.bind next).StopsAtFailure _
  induction program with
  | done value => exact rest value first
  | ask request go ih =>
      intro answer
      refine ⟨fun fails => ?_, fun goesOn => ih answer ((first answer).2 goesOn)⟩
      exact ((first answer).1 fails).bind failed

theorem GivesUp.tidies {program : Prog S α} {trace : List (Event S)} {result : α}
    (givesUp : program.GivesUp policy) (run : program.Yields trace result) :
    ¬ policy.success result ∧ ∀ event ∈ trace, policy.tidy event.request := by
  induction program generalizing trace with
  | done value =>
      obtain ⟨rfl, rfl⟩ := run
      exact ⟨givesUp, by simp⟩
  | ask request next ih =>
      obtain ⟨answer, rest, rfl, run⟩ := run
      obtain ⟨failed, tidy⟩ := ih answer (givesUp.2 answer) run
      exact ⟨failed, by simpa using ⟨givesUp.1, tidy⟩⟩

theorem StopsAtFailure.success_iff {program : Prog S α} {trace : List (Event S)} {result : α}
    (stops : program.StopsAtFailure policy) (run : program.Yields trace result) :
    policy.success result ↔ ∀ event ∈ trace, ¬ policy.fails event := by
  induction program generalizing trace with
  | done value =>
      obtain ⟨rfl, rfl⟩ := run
      exact ⟨fun _ => by simp, fun _ => stops⟩
  | ask request next ih =>
      obtain ⟨answer, rest, rfl, run⟩ := run
      by_cases fails : policy.fails ⟨request, answer⟩
      · simp [fails, (((stops answer).1 fails).tidies run).1]
      · simpa [fails] using ih answer ((stops answer).2 fails) run

theorem StopsAtFailure.tidy_of_fails {program : Prog S α} {early late : List (Event S)}
    {event : Event S} {result : α} (stops : program.StopsAtFailure policy)
    (run : program.Yields (early ++ event :: late) result) (fails : policy.fails event) :
    ∀ later ∈ late, policy.tidy later.request := by
  induction program generalizing early with
  | done value => exact absurd run.1 (by simp)
  | ask request next ih =>
      obtain ⟨answer, rest, same, run⟩ := run
      cases early with
      | nil =>
          obtain ⟨rfl, rfl⟩ := List.cons.inj same
          exact (((stops answer).1 fails).tidies run).2
      | cons first early =>
          obtain ⟨rfl, rfl⟩ := List.cons.inj same
          -- After an earlier failure all is tidied up already, and the event makes no difference.
          by_cases already : policy.fails ⟨request, answer⟩
          · have tidy := (((stops answer).1 already).tidies run).2
            exact fun later member => tidy later (by simp [member])
          · exact ih answer ((stops answer).2 already) run

end Prog

section Except

variable {ε α β : Type}

@[simp]
theorem bind_eq_ok {first : Except ε α} {next : α → Except ε β} {result : β} :
    (first >>= next) = .ok result ↔ ∃ value, first = .ok value ∧ next value = .ok result := by
  cases first <;> simp [bind, Except.bind]

@[simp]
theorem throw_ne_ok {cause : ε} {value : α} : (throw cause : Except ε α) ≠ .ok value := nofun

end Except

end DeploymentLifecycle
