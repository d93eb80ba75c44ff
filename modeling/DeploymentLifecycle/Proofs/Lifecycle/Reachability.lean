import DeploymentLifecycle.Proofs.Lifecycle.Rounds
import DeploymentLifecycle.Proofs.Lifecycle.Stages

namespace DeploymentLifecycle.Lifecycle

/-! What the wait for an agent comes to, by the pings that it sends and how they go. -/

/-- A ping that is sent when the clock shows `sent`. After one that failed the clock is looked at
again, and shows `seen`. -/
inductive Pinged where
  | answered (sent : Duration) (text : String)
  | abandoned (sent : Duration)
  | failed (sent : Duration) (error : AgentError) (seen : Duration)

namespace Pinged

/-- A ping may take the time that is left until the deadline; one that hangs is given up then. -/
def events (deadline : Duration) : Pinged → List (Event signature)
  | .answered sent text => [⟨.now, sent⟩, ⟨.ping (deadline - sent), .answered text⟩]
  | .abandoned sent => [⟨.now, sent⟩, ⟨.ping (deadline - sent), .pending⟩]
  | .failed sent error seen =>
    [⟨.now, sent⟩, ⟨.ping (deadline - sent), .failed error⟩, ⟨.now, seen⟩]

def IsAnswered : Pinged → Prop
  | .answered .. => True
  | _ => False

def FailedBefore (deadline : Duration) : Pinged → Prop
  | .failed _ _ seen => seen < deadline
  | _ => False

end Pinged

section Rounds

variable {deadline delay : Duration} {polled trace : List (Event signature)} {reachable : Bool}

theorem pingOnce_settled (run : (pingOnce deadline).Yields polled (.inl reachable)) :
    (∃ sent text, polled = (Pinged.answered sent text).events deadline ∧ reachable = true) ∨
      ∃ sent, polled = (Pinged.abandoned sent).events deadline ∧ reachable = false := by
  obtain ⟨sent, _, rfl, reply, _, rfl, settled⟩ := run
  cases reply with
  | answered text =>
      obtain ⟨rfl, same⟩ := settled
      exact .inl ⟨sent, text, rfl, Sum.inl.inj same⟩
  | pending =>
      obtain ⟨rfl, same⟩ := settled
      exact .inr ⟨sent, rfl, Sum.inl.inj same⟩
  | failed error => cases settled.2

theorem pingOnce_unmet (run : (pingOnce deadline).Yields polled (.inr ())) :
    ∃ (sent : Duration) (error : AgentError),
      polled = [⟨.now, sent⟩, ⟨.ping (deadline - sent), .failed error⟩] := by
  obtain ⟨(sent : Duration), _, rfl, reply, _, rfl, unmet⟩ := run
  cases reply with
  | failed error =>
      obtain ⟨rfl, _⟩ := unmet
      exact ⟨sent, error, rfl⟩
  | _ => cases unmet.2

theorem pingLog_of_rounds {state : Unit}
    (rounds : Rounds deadline delay (fun _ => pingOnce deadline) (fun _ => false) state trace
      reachable) :
    ∃ pings : List Pinged, PollLog delay (Pinged.events deadline) (Pinged.FailedBefore deadline)
      Pinged.IsAnswered pings trace (reachable = true) := by
  induction rounds with
  | settled polling =>
      rcases pingOnce_settled polling with ⟨sent, text, rfl, rfl⟩ | ⟨sent, rfl, rfl⟩
      · exact ⟨[.answered sent text], .last id (iff_of_true rfl trivial)⟩
      · exact ⟨[.abandoned sent], .last id (iff_of_false nofun id)⟩
  | @lapsed _ _ _ seen polling late =>
      obtain ⟨sent, error, rfl⟩ := pingOnce_unmet polling
      have ends : ¬ (Pinged.failed sent error seen).FailedBefore deadline := Nat.not_lt.2 late
      exact ⟨[.failed sent error seen], .last ends (iff_of_false nofun id)⟩
  | @again _ _ _ _ seen _ polling early _ ih =>
      obtain ⟨sent, error, rfl⟩ := pingOnce_unmet polling
      obtain ⟨pings, log⟩ := ih
      have goes : (Pinged.failed sent error seen).FailedBefore deadline := Nat.lt_of_not_le early
      exact ⟨.failed sent error seen :: pings, log.next goes id⟩

end Rounds

/-- Two events that differ in the error of a ping that failed, if at all. -/
inductive AlikeButForError : Event signature → Event signature → Prop
  | same (event : Event signature) : AlikeButForError event event
  | error (limit : Duration) (one other : AgentError) :
      AlikeButForError ⟨.ping limit, .failed one⟩ ⟨.ping limit, .failed other⟩

section Errors

variable {trace other : List (Event signature)} {reachable verdict : Bool} {policy : PingPolicy}

theorem pingUntil_alike {deadline delay : Duration} {rounds : Nat}
    (alike : List.Forall₂ AlikeButForError trace other)
    (run : (pingUntil deadline delay rounds).Yields trace reachable) :
    (pingUntil deadline delay rounds).Yields other reachable := by
  induction rounds generalizing trace other with
  | zero =>
      obtain ⟨rfl, rfl⟩ := run
      cases alike
      exact ⟨rfl, rfl⟩
  | succ rounds ih =>
      obtain ⟨(sent : Duration), _, rfl, reply, _, rfl, replied⟩ := run
      obtain _ | ⟨⟨_⟩, _ | ⟨ping, alike⟩⟩ := alike
      cases reply with
      | answered text =>
          obtain ⟨rfl, rfl⟩ := replied
          cases ping
          cases alike
          exact ⟨sent, _, rfl, .answered text, _, rfl, rfl, rfl⟩
      | pending =>
          obtain ⟨rfl, rfl⟩ := replied
          cases ping
          cases alike
          exact ⟨sent, _, rfl, .pending, _, rfl, rfl, rfl⟩
      | failed error =>
          obtain ⟨(seen : Duration), tail, rfl, rest⟩ := replied
          obtain _ | @⟨_, _, _, later, ⟨_⟩, alike⟩ := alike
          -- Whatever the error is, the clock alone decides how it goes on.
          have onward : ∀ error, (pingUntil deadline delay (rounds + 1)).Yields
              (⟨.now, sent⟩ :: ⟨.ping (deadline - sent), .failed error⟩ :: ⟨.now, seen⟩ :: later)
              reachable := by
            intro error
            refine ⟨sent, _, rfl, .failed error, _, rfl, seen, later, rfl, ?_⟩
            by_cases late : deadline ≤ seen
            · simp only [Prog.bind, if_pos late] at rest ⊢
              obtain ⟨rfl, rfl⟩ := rest
              cases alike
              exact ⟨rfl, rfl⟩
            · simp only [Prog.bind, if_neg late] at rest ⊢
              obtain ⟨_, _, rfl, again⟩ := rest
              obtain _ | ⟨⟨_⟩, alike⟩ := alike
              exact ⟨(), _, rfl, ih alike again⟩
          cases ping <;> exact onward _

theorem isReachable_alike (alike : List.Forall₂ AlikeButForError trace other)
    (run : (isReachable policy).Yields trace reachable) :
    (isReachable policy).Yields other reachable := by
  obtain ⟨begun, _, rfl, pinging⟩ := run
  obtain _ | ⟨⟨_⟩, alike⟩ := alike
  exact ⟨begun, _, rfl, pingUntil_alike alike pinging⟩

end Errors

section Verdict

variable {policy : PingPolicy}

theorem isReachable_rounds {trace : List (Event signature)} {reachable : Bool}
    {start after : Duration} (positive : 0 < policy.delay.nanos)
    (run : (isReachable policy).Yields trace reachable) (along : clock.Along start trace after) :
    ∃ (begun : Duration) (rest : List (Event signature)), trace = ⟨.now, begun⟩ :: rest ∧
      start ≤ begun ∧
      Rounds (begun + policy.timeout) policy.delay (fun _ => pingOnce (begun + policy.timeout))
        (fun _ => false) () rest reachable := by
  change (reachableWithin policy _).Yields trace reachable at run
  rw [reachableWithin_eq] at run
  exact rounds_of_pollFor positive (polls_le_rounds positive) run along

theorem isReachable_begins {trace : List (Event signature)} {reachable : Bool}
    (run : (isReachable policy).Yields trace reachable) :
    ∃ (begun : Duration) (rest : List (Event signature)), trace = ⟨.now, begun⟩ :: rest := by
  obtain ⟨begun, rest, rfl, _⟩ := run
  exact ⟨begun, rest, rfl⟩

theorem exists_wait_from (timing : Timing) (policy : PingPolicy) (begun : Duration) :
    ∃ rest reachable after past, (isReachable policy).Yields (⟨.now, begun⟩ :: rest) reachable ∧
      timing.conduct.Along (begun, [⟨.now, begun⟩]) rest (after, past) := by
  let deadline := begun + policy.timeout
  obtain ⟨rest, reachable, ⟨after, past⟩, run, along⟩ := timing.exists_run_from
    (pingUntil deadline policy.delay (rounds policy.timeout policy.delay))
    (begun, [⟨.now, begun⟩])
  exact ⟨rest, reachable, after, past, ⟨begun, rest, rfl, run⟩, along⟩

/-- The verdict on an agent. The wait for it begins at a reading of the clock, and the clock has one
for its deadline too. Whatever its pings come to and whatever time they take, the wait ends, and has
done nothing but pings and the pauses between them. The agent is reachable exactly if it has answered
a ping and all pings before had failed before the deadline; with which errors makes no
difference. -/
theorem reachable_iff_answered_in_time {begun deadline : Duration}
    (positive : 0 < policy.delay.nanos)
    (ends : readingAfter? begun policy.timeout = some deadline) :
    (∀ timing : Timing, ∃ rest reachable after past,
      (isReachable policy).Yields (⟨.now, begun⟩ :: rest) reachable ∧
        timing.conduct.Along (begun, [⟨.now, begun⟩]) rest (after, past) ∧
        clock.Along begun rest after) ∧
    (∀ rest reachable after, (isReachable policy).Yields (⟨.now, begun⟩ :: rest) reachable →
      clock.Along begun rest after → ∃ pings : List Pinged,
        PollLog policy.delay (Pinged.events deadline) (Pinged.FailedBefore deadline)
          Pinged.IsAnswered pings rest (reachable = true)) ∧
    (∀ rest other reachable verdict,
      (isReachable policy).Yields (⟨.now, begun⟩ :: rest) reachable →
        List.Forall₂ AlikeButForError rest other →
          ((isReachable policy).Yields (⟨.now, begun⟩ :: other) verdict ↔ verdict = reachable)) ∧
    ∀ (target : Instance) trace result, (target.awaitAgent policy).run.Yields trace result →
      ∃ (started looked : Duration) (rest : List (Event signature)) (ended : Duration)
        (reachable : Bool),
        trace = target.gateStage policy started (⟨.now, looked⟩ :: rest) ended reachable ∧
        (isReachable policy).Yields (⟨.now, looked⟩ :: rest) reachable ∧ result = .ok reachable := by
  obtain ⟨rfl, _⟩ := readingAfter?_eq_some.1 ends
  refine ⟨?_, ?_, ?_, ?_⟩
  · intro timing
    obtain ⟨rest, reachable, after, past, run, along⟩ := exists_wait_from timing policy begun
    exact ⟨rest, reachable, after, past, run, along, Timing.along_clock along⟩
  · intro rest reachable after run along
    have looked : clock.Along begun (⟨.now, begun⟩ :: rest) after :=
      ⟨begun, ⟨Nat.le_refl _, rfl⟩, along⟩
    obtain ⟨_, _, same, _, rounds⟩ := isReachable_rounds positive run looked
    cases same
    exact pingLog_of_rounds rounds
  · intro rest other reachable verdict run alike
    have same := isReachable_alike (.cons (.same _) alike) run
    constructor
    · exact same.unique
    · intro equal
      exact equal ▸ same
  · intro target trace result run
    obtain ⟨started, gate, ended, reachable, rfl, waiting, rfl⟩ := awaitAgent_trace run
    obtain ⟨looked, rest, rfl⟩ := isReachable_begins waiting
    exact ⟨started, looked, rest, ended, reachable, rfl, waiting, rfl⟩

theorem second_ping_answered : ∃ (policy : PingPolicy) (deadline : Duration)
    (rest : List (Event signature)) (after : Duration), 0 < policy.delay.nanos ∧
    readingAfter? .zero policy.timeout = some deadline ∧
    (isReachable policy).Yields (⟨.now, .zero⟩ :: rest) true ∧ clock.Along .zero rest after ∧
    ∃ pings : List Pinged, PollLog policy.delay (Pinged.events deadline)
        (Pinged.FailedBefore deadline) Pinged.IsAnswered pings rest (true = true) ∧
      ∃ early ping late, pings = early ++ ping :: late ∧ ping.IsAnswered ∧
        ∀ other ∈ early, other.FailedBefore deadline := by
  let policy : PingPolicy := ⟨⟨10⟩, ⟨3⟩⟩
  let rest : List (Event signature) := [⟨.now, .zero⟩,
    ⟨.ping ⟨10⟩, .failed (.timeout "ping" .zero)⟩, ⟨.now, ⟨1⟩⟩, ⟨.sleep ⟨3⟩, ()⟩, ⟨.now, ⟨4⟩⟩,
    ⟨.ping ⟨6⟩, .answered "pong"⟩]
  have run : (isReachable policy).Yields (⟨.now, .zero⟩ :: rest) true := by
    repeat refine ⟨_, _, rfl, ?_⟩
    exact ⟨rfl, rfl⟩
  have along : clock.Along .zero rest ⟨4⟩ := by
    refine ⟨.zero, ⟨?_, rfl⟩, ⟨1⟩, ⟨?_, trivial⟩, ⟨1⟩, ⟨?_, rfl⟩, ⟨4⟩, ⟨?_, trivial⟩, ⟨4⟩,
      ⟨?_, rfl⟩, ⟨4⟩, ⟨?_, trivial⟩, rfl⟩ <;> decide
  have positive : 0 < policy.delay.nanos := by decide
  have ends : readingAfter? .zero policy.timeout = some ⟨10⟩ := by decide
  obtain ⟨_, verdict, _, _⟩ := reachable_iff_answered_in_time positive ends
  obtain ⟨pings, log⟩ := verdict rest true ⟨4⟩ run along
  exact ⟨policy, ⟨10⟩, rest, ⟨4⟩, positive, ends, run, along, pings, log, log.verdict.1 rfl⟩

end Verdict

end DeploymentLifecycle.Lifecycle
