import DeploymentLifecycle.Proofs.Lifecycle.Provider
import DeploymentLifecycle.Proofs.Lifecycle.Reachability

namespace DeploymentLifecycle.Lifecycle

/-! When the wait for an agent is over if its pings take no time. The pauses between them are whole
ones, so that the last one may go on after the timeout. -/

/-- The pings of a trace with the times at which they are begun, on an idle clock. -/
def begunPings : Duration → List (Event signature) → List (Duration × PingReply)
  | _, [] => []
  | time, ⟨.ping limit, reply⟩ :: rest =>
    (time, reply) :: begunPings (time + elapses ⟨.ping limit, reply⟩) rest
  | time, event :: rest => begunPings (time + elapses event) rest

/-- The wait is over at the limit, begins no ping after it, and finds no agent reachable that
answers only later. -/
structure KeepsTo (limit start : Duration) (trace : List (Event signature)) (reachable : Bool)
    (after : Duration) : Prop where
  returns : after ≤ limit
  begun : ∀ ping ∈ begunPings start trace, ping.1 ≤ limit
  verdict : (∀ time text, (time, .answered text) ∈ begunPings start trace → limit < time) →
    reachable = false

section Idle

variable {start after : Duration} {trace : List (Event signature)}

/-- Looks at the clock and pings that fail take no time. -/
theorem idle_failed {sent seen remaining : Duration} {error : AgentError}
    (along : idleClock.Along start
      (⟨.now, sent⟩ :: ⟨.ping remaining, .failed error⟩ :: ⟨.now, seen⟩ :: trace) after) :
    sent = start ∧ seen = start ∧ idleClock.Along start trace after := by
  obtain ⟨sentThen, _, seenThen, along⟩ := by simpa only [idle_cons] using along
  exact ⟨sentThen, seenThen, along⟩

@[simp]
theorem begunPings_failed {sent seen remaining : Duration} {error : AgentError} :
    begunPings start (⟨.now, sent⟩ :: ⟨.ping remaining, .failed error⟩ :: ⟨.now, seen⟩ :: trace) =
      (start, .failed error) :: begunPings start trace := rfl

@[simp]
theorem begunPings_sleep {pause : Duration} :
    begunPings start (⟨.sleep pause, ()⟩ :: trace) = begunPings (start + pause) trace := rfl

end Idle

section Rounds

variable {limit deadline delay start after : Duration} {trace : List (Event signature)}
  {reachable : Bool} {state : Unit}

theorem keepsTo_of_rounds (within : deadline ≤ limit) (early : start ≤ limit)
    (divides : delay.nanos ∣ limit.nanos - start.nanos)
    (rounds : Rounds deadline delay (fun _ => pingOnce deadline) (fun _ => false) state trace
      reachable)
    (along : idleClock.Along start trace after) : KeepsTo limit start trace reachable after := by
  -- What is left until the limit is a number of whole pauses, after each of them.
  induction rounds generalizing start with
  | settled polling =>
      rcases pingOnce_settled polling with ⟨sent, text, rfl, rfl⟩ | ⟨sent, rfl, rfl⟩
      · obtain ⟨_, _, rfl⟩ := by simpa only [Pinged.events, idle_cons, idle_nil] using along
        refine ⟨early, List.forall_mem_singleton.2 early, fun later => ?_⟩
        exact absurd (later start text (.head _)) (Nat.not_lt.2 early)
      · obtain ⟨same, _, rfl⟩ := by simpa only [Pinged.events, idle_cons, idle_nil] using along
        obtain rfl : sent = start := same
        refine ⟨?_, List.forall_mem_singleton.2 early, fun _ => rfl⟩
        change sent + (deadline - sent) ≤ limit
        simp only [Duration.le_iff, Duration.nanos_add, Duration.nanos_sub] at within early ⊢
        omega
  | lapsed polling late =>
      obtain ⟨sent, error, rfl⟩ := pingOnce_unmet polling
      obtain ⟨_, _, rfl⟩ := idle_failed along
      exact ⟨early, List.forall_mem_singleton.2 early, fun _ => rfl⟩
  | @again _ _ _ rest seen _ polling soon onward ih =>
      obtain ⟨sent, error, rfl⟩ := pingOnce_unmet polling
      obtain ⟨_, rfl, onward⟩ := idle_failed along
      obtain ⟨_, onward⟩ := idle_cons.1 onward
      have left : 0 < limit.nanos - seen.nanos :=
        Nat.sub_pos_of_lt (Nat.lt_of_lt_of_le (Nat.lt_of_not_le soon) within)
      have room : delay.nanos ≤ limit.nanos - seen.nanos := Nat.le_of_dvd left divides
      have inTime : seen + delay ≤ limit := by
        simp only [Duration.le_iff, Duration.nanos_add]
        omega
      have whole : delay.nanos ∣ limit.nanos - (seen + delay).nanos := by
        rw [Duration.nanos_add, ← Nat.sub_sub]
        exact Nat.dvd_sub divides (Nat.dvd_refl _)
      obtain ⟨returns, begun, verdict⟩ := ih inTime whole onward
      refine ⟨returns, List.forall_mem_cons.2 ⟨early, begun⟩, fun later => ?_⟩
      exact verdict fun time text member => later time text (.tail _ member)

/-- When no ping is met, the wait ends after a number of whole pauses, not before the deadline. -/
theorem rounds_unmet
    (rounds : Rounds deadline delay (fun _ => pingOnce deadline) (fun _ => false) state trace
      reachable)
    (along : idleClock.Along start trace after)
    (unmet : ∀ event ∈ trace, event.request.IsPing → PingFails event) :
    deadline ≤ after ∧ delay.nanos ∣ after.nanos - start.nanos := by
  induction rounds generalizing start with
  | settled polling =>
      rcases pingOnce_settled polling with ⟨sent, text, rfl, _⟩ | ⟨sent, rfl, _⟩
      · exact (unmet _ (.tail _ (.head _)) trivial).elim
      · exact (unmet _ (.tail _ (.head _)) trivial).elim
  | lapsed polling late =>
      obtain ⟨sent, error, rfl⟩ := pingOnce_unmet polling
      obtain ⟨_, rfl, rfl⟩ := idle_failed along
      exact ⟨late, by simp⟩
  | again polling soon onward ih =>
      obtain ⟨sent, error, rfl⟩ := pingOnce_unmet polling
      obtain ⟨_, _, onward⟩ := idle_failed along
      obtain ⟨_, onward⟩ := idle_cons.1 onward
      have later := le_of_along (clock_of_idle onward)
      obtain ⟨passed, divides⟩ := ih onward fun event member => unmet event (by simp [member])
      refine ⟨passed, ?_⟩
      have split : after.nanos - start.nanos =
          after.nanos - (start + delay).nanos + delay.nanos := by
        simp only [Duration.le_iff, Duration.nanos_add, elapses] at later ⊢
        omega
      rw [split]
      exact Nat.dvd_add divides (Nat.dvd_refl _)

end Rounds

/-- An agent may leave all pings unmet while no time passes but in pauses. -/
theorem exists_unmet {α : Type} (program : Prog signature α) (start : Duration) :
    ∃ trace result after, program.Yields trace result ∧ idleClock.Along start trace after ∧
      ∀ event ∈ trace, event.request.IsPing → PingFails event := by
  have answers : ∀ before request, ∃ answer after, idleClock before ⟨request, answer⟩ after ∧
      (Request.IsPing request → PingFails ⟨request, answer⟩) := by
    intro before request
    cases request with
    | now => exact ⟨before, before, ⟨rfl, rfl⟩, False.elim⟩
    | ping limit => exact ⟨.failed (.timeout "ping" .zero), before, ⟨rfl, trivial⟩, id⟩
    | _ =>
        obtain ⟨answer, _⟩ := World.exists_answer ⟨none, ∅⟩ _
        exact ⟨answer, _, ⟨rfl, trivial⟩, False.elim⟩
  exact Prog.exists_run answers program start

section Verdict

variable {policy : PingPolicy} {limit start after : Duration} {trace : List (Event signature)}
  {reachable : Bool}

/-- The time of as many whole pauses as it takes to fill a time. -/
def wholePauses (time pause : Duration) : Duration :=
  ⟨pause.nanos * (time.nanos ⌈/⌉ pause.nanos)⟩

theorem isReachable_keepsTo (positive : 0 < policy.delay.nanos) (within : policy.timeout ≤ limit)
    (divides : policy.delay.nanos ∣ limit.nanos) (run : (isReachable policy).Yields trace reachable)
    (along : idleClock.Along start trace after) :
    KeepsTo (start + limit) start trace reachable after := by
  obtain ⟨begun, rest, rfl, _, rounds⟩ := isReachable_rounds positive run (clock_of_idle along)
  obtain ⟨same, onward⟩ := idle_cons.1 along
  obtain rfl : begun = start := same
  have inTime : begun + policy.timeout ≤ begun + limit := Nat.add_le_add_left within _
  have whole : policy.delay.nanos ∣ (begun + limit).nanos - begun.nanos := by
    rwa [Duration.nanos_add, Nat.add_sub_cancel_left]
  obtain ⟨returns, pings, verdict⟩ :=
    keepsTo_of_rounds inTime (Nat.le_add_right _ _) whole rounds onward
  exact ⟨returns, pings, verdict⟩

/-- The wait for an agent whose pings take no time, where the clock has a reading for its deadline. It
keeps to its timeout in every case exactly if this is a number of whole pauses, and always keeps to
the whole pauses that fill the timeout. -/
theorem keeps_to_timeout_iff (positive : 0 < policy.delay.nanos) :
    (∀ (timing : Timing) start, (∀ past request, (timing past request).2 = .zero) →
      ∃ trace reachable after past, (isReachable policy).Yields trace reachable ∧
        timing.conduct.Along (start, []) trace (after, past) ∧
        idleClock.Along start trace after) ∧
    ((∀ trace reachable start after, (isReachable policy).Yields trace reachable →
      idleClock.Along start trace after →
        KeepsTo (start + policy.timeout) start trace reachable after) ↔
      policy.delay.nanos ∣ policy.timeout.nanos) ∧
    ∀ trace reachable start after, (isReachable policy).Yields trace reachable →
      idleClock.Along start trace after →
        KeepsTo (start + wholePauses policy.timeout policy.delay) start trace reachable after := by
  refine ⟨?_, ⟨?_, ?_⟩, ?_⟩
  · intro timing start swift
    obtain ⟨trace, reachable, after, past, run, along⟩ :=
      timing.exists_run (isReachable policy) start
    exact ⟨trace, reachable, after, past, run, along, Timing.along_idle swift along⟩
  · intro kept
    obtain ⟨trace, reachable, after, run, along, unmet⟩ := exists_unmet (isReachable policy) .zero
    have returns := (kept trace reachable .zero after run along).returns
    obtain ⟨begun, rest, rfl, _, rounds⟩ :=
      isReachable_rounds positive run (clock_of_idle along)
    obtain ⟨same, onward⟩ := idle_cons.1 along
    obtain rfl : begun = .zero := same
    obtain ⟨passed, divides⟩ := rounds_unmet rounds onward (List.forall_mem_cons.1 unmet).2
    have exact : after.nanos - Duration.zero.nanos = policy.timeout.nanos := by
      simp only [Duration.le_iff, Duration.nanos_add, Duration.nanos_zero] at returns passed ⊢
      omega
    exact exact ▸ divides
  · intro divides trace reachable start after run along
    exact isReachable_keepsTo positive (Nat.le_refl _) divides run along
  · intro trace reachable start after run along
    have filled : policy.timeout.nanos ≤
        policy.delay.nanos • (policy.timeout.nanos ⌈/⌉ policy.delay.nanos) :=
      le_smul_ceilDiv positive
    exact isReachable_keepsTo positive filled (Nat.dvd_mul_right _ _) run along

theorem standard_timeout_kept : ∃ trace reachable after,
    PingPolicy.standard.delay.nanos ∣ PingPolicy.standard.timeout.nanos ∧
    (isReachable .standard).Yields trace reachable ∧ idleClock.Along .zero trace after ∧
    KeepsTo (.zero + PingPolicy.standard.timeout) .zero trace reachable after := by
  have positive : 0 < PingPolicy.standard.delay.nanos := by decide
  have divides : PingPolicy.standard.delay.nanos ∣ PingPolicy.standard.timeout.nanos := by decide
  obtain ⟨trace, reachable, after, run, along, _⟩ := exists_unmet (isReachable .standard) .zero
  have kept := (keeps_to_timeout_iff positive).2.1.2 divides
  exact ⟨trace, reachable, after, divides, run, along, kept trace reachable .zero after run along⟩

/-- With a timeout of ten and a pause of three nanoseconds, a fifth ping is begun after twelve. -/
theorem answer_counts_after_timeout : ∃ policy trace after,
    0 < policy.timeout.nanos ∧ 0 < policy.delay.nanos ∧
    (isReachable policy).Yields trace true ∧ idleClock.Along .zero trace after ∧
    (∀ time text, (time, .answered text) ∈ begunPings .zero trace →
      .zero + policy.timeout < time) ∧
    ¬ after ≤ .zero + policy.timeout ∧
    ¬ ∀ ping ∈ begunPings .zero trace, ping.1 ≤ .zero + policy.timeout := by
  let failure : PingReply := .failed (.timeout "ping" .zero)
  let round (time : Duration) : List (Event signature) :=
    [⟨.now, time⟩, ⟨.ping (⟨10⟩ - time), failure⟩, ⟨.now, time⟩, ⟨.sleep ⟨3⟩, ()⟩]
  let trace : List (Event signature) := ⟨.now, .zero⟩ :: round ⟨0⟩ ++ round ⟨3⟩ ++ round ⟨6⟩ ++
    round ⟨9⟩ ++ [⟨.now, ⟨12⟩⟩, ⟨.ping .zero, .answered "pong"⟩]
  have pings : begunPings .zero trace = [(⟨0⟩, failure), (⟨3⟩, failure), (⟨6⟩, failure),
    (⟨9⟩, failure), (⟨12⟩, .answered "pong")] := rfl
  have late : Duration.zero + ⟨10⟩ < ⟨12⟩ := by decide
  refine ⟨⟨⟨10⟩, ⟨3⟩⟩, trace, ⟨12⟩, by decide, by decide, ?_, ?_, ?_, Nat.not_le.2 late, ?_⟩
  · repeat refine ⟨_, _, rfl, ?_⟩
    exact ⟨rfl, rfl⟩
  · simp only [trace, round, List.cons_append, List.nil_append, idle_cons, idle_nil]
    repeat refine ⟨?_, ?_⟩
    all_goals first | rfl | trivial
  · intro time text answered
    obtain ⟨rfl, _⟩ : time = ⟨12⟩ ∧ text = "pong" := by simpa [pings, failure] using answered
    exact late
  · intro inTime
    exact absurd (inTime (⟨12⟩, .answered "pong") (by simp [pings])) (Nat.not_le.2 late)

end Verdict

end DeploymentLifecycle.Lifecycle
