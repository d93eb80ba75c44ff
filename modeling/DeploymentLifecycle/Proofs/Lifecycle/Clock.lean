import DeploymentLifecycle.Proofs.Lifecycle.Requests

namespace DeploymentLifecycle

namespace Duration

variable {one other : Duration}

@[simp]
theorem nanos_add : (one + other).nanos = one.nanos + other.nanos := rfl

@[simp]
theorem nanos_sub : (one - other).nanos = one.nanos - other.nanos := rfl

@[simp]
theorem nanos_zero : zero.nanos = 0 := rfl

theorem le_iff : one ≤ other ↔ one.nanos ≤ other.nanos := Iff.rfl

theorem eq_of_nanos (same : one.nanos = other.nanos) : one = other := by
  cases one
  cases other
  exact congrArg mk same

end Duration

namespace Lifecycle

/-! Clocks: how the time goes on from event to event. -/

/-- The time that is known to pass while an event takes place. -/
def elapses : Event signature → Duration
  | ⟨.sleep time, _⟩ => time
  | ⟨.ping limit, .pending⟩ => limit
  | _ => .zero

/-- A look at the clock shows the time. -/
def Shows : Event signature → Duration → Prop
  | ⟨.now, reading⟩, time => reading = time
  | _, _ => True

/-- A clock never goes back. Any event may take any time, and a pause takes as long as it should, or
longer. -/
def clock : Conduct signature Duration := fun before event after =>
  before + elapses event ≤ after ∧ Shows event after

/-- On an idle clock nothing takes time but pauses, and they are exact. -/
def idleClock : Conduct signature Duration := fun before event after =>
  after = before + elapses event ∧ Shows event after

/-- The last reading of a clock, whose seconds are a signed number of 64 bits. -/
def lastReading : Duration := .ofSeconds 9_223_372_036_854_775_807 + ⟨999_999_999⟩

/-- The reading that a clock shows a time after another, unless that is past its last one. A program
that needs a reading where there is none is aborted. The waits do not show this, since they count
without a bound: they stand for the program where there is a reading for their deadline. -/
def readingAfter? (begun time : Duration) : Option Duration :=
  let reading := begun + time
  if reading ≤ lastReading then some reading else none

theorem readingAfter?_eq_some {begun time reading : Duration} :
    readingAfter? begun time = some reading ↔ reading = begun + time ∧ reading ≤ lastReading := by
  by_cases shown : begun + time ≤ lastReading
  · simp only [readingAfter?, if_pos shown, Option.some.injEq]
    constructor
    · intro same
      exact ⟨same.symm, same ▸ shown⟩
    · intro held
      exact held.1.symm
  · simp only [readingAfter?, if_neg shown]
    refine iff_of_false nofun ?_
    intro held
    exact shown (held.1 ▸ held.2)

/-- As many seconds as a text can give end past the last reading. -/
example : readingAfter? .zero (.ofSeconds 18_446_744_073_709_551_615) = none := by decide

variable {start after : Duration} {trace : List (Event signature)}

theorem le_of_along (along : clock.Along start trace after) : start ≤ after := by
  induction trace generalizing start with
  | nil => exact Nat.le_of_eq (congrArg Duration.nanos along.symm)
  | cons event rest ih =>
      obtain ⟨middle, ⟨passed, _⟩, along⟩ := along
      exact Nat.le_trans (Nat.le_trans (Nat.le_add_right _ _) passed) (ih along)

theorem idle_nil : idleClock.Along start [] after ↔ after = start := Iff.rfl

theorem idle_cons {event : Event signature} : idleClock.Along start (event :: trace) after ↔
    Shows event (start + elapses event) ∧
      idleClock.Along (start + elapses event) trace after := by
  constructor
  · intro along
    obtain ⟨_, ⟨rfl, shows⟩, along⟩ := along
    exact ⟨shows, along⟩
  · intro along
    exact ⟨_, ⟨rfl, along.1⟩, along.2⟩

theorem clock_of_idle (along : idleClock.Along start trace after) :
    clock.Along start trace after := by
  have ticks : ∀ before event next, idleClock before event next → clock before event next := by
    intro before event next step
    exact ⟨Nat.le_of_eq (congrArg Duration.nanos step.1.symm), step.2⟩
  exact along.project ticks

/-- What is answered to a request and how long that takes, by what has happened so far. -/
abbrev Timing := List (Event signature) → (request : Request) → Answer request × Duration

namespace Timing

variable {timing : Timing} {past now : List (Event signature)} {α : Type}

/-- All is answered by the timing, but looks at the clock, which show the time. -/
def conduct (timing : Timing) : Conduct signature (Duration × List (Event signature)) :=
  fun before event after =>
    after = (before.1 + elapses event + (timing before.2 event.request).2, before.2 ++ [event]) ∧
      match event with
      | ⟨.now, reading⟩ => reading = after.1
      | ⟨request, answer⟩ => answer = (timing before.2 request).1

theorem exists_run_from (timing : Timing) (program : Prog signature α)
    (before : Duration × List (Event signature)) :
    ∃ trace result after, program.Yields trace result ∧
      timing.conduct.Along before trace after := by
  let any : Event signature → Prop := fun _ => True
  have answers : ∀ before request, ∃ answer after,
      timing.conduct before ⟨request, answer⟩ after ∧ any ⟨request, answer⟩ := by
    intro before request
    let given := (timing before.2 request).1
    let time := before.1 + elapses ⟨request, given⟩ + (timing before.2 request).2
    cases request with
    | now =>
        let time := before.1 + .zero + (timing before.2 .now).2
        exact ⟨time, (time, _), ⟨rfl, rfl⟩, trivial⟩
    | _ =>
        refine ⟨given, (time, _), ⟨rfl, ?_⟩, trivial⟩
        rfl
  obtain ⟨trace, result, after, run, along, _⟩ := Prog.exists_run answers program before
  exact ⟨trace, result, after, run, along⟩

theorem exists_run (timing : Timing) (program : Prog signature α) (start : Duration) :
    ∃ trace result after past, program.Yields trace result ∧
      timing.conduct.Along (start, []) trace (after, past) := by
  obtain ⟨trace, result, ⟨after, past⟩, run, along⟩ := timing.exists_run_from program (start, [])
  exact ⟨trace, result, after, past, run, along⟩

theorem shows {before after : Duration × List (Event signature)} {event : Event signature}
    (step : timing.conduct before event after) : Shows event after.1 := by
  obtain ⟨request, answer⟩ := event
  cases request with
  | now => exact step.2
  | _ => trivial

theorem along_clock (along : timing.conduct.Along (start, past) trace (after, now)) :
    clock.Along start trace after := by
  have ticks : ∀ before event next, timing.conduct before event next →
      clock before.1 event next.1 := by
    intro before event next step
    refine ⟨?_, shows step⟩
    rw [step.1]
    exact Nat.le_add_right _ _
  exact along.project ticks

theorem along_idle (swift : ∀ past request, (timing past request).2 = .zero)
    (along : timing.conduct.Along (start, past) trace (after, now)) :
    idleClock.Along start trace after := by
  have ticks : ∀ before event next, timing.conduct before event next →
      idleClock before.1 event next.1 := by
    intro before event next step
    have swift := swift before.2 event.request
    refine ⟨(congrArg Prod.fst step.1).trans ?_, shows step⟩
    exact congrArg (before.1 + elapses event + ·) swift
  exact along.project ticks

end Timing

end Lifecycle

end DeploymentLifecycle
