import DeploymentLifecycle.Lifecycle.Wait
import DeploymentLifecycle.Proofs.Lifecycle.Clock
import DeploymentLifecycle.Proofs.Perform
import Mathlib.Algebra.Order.Floor.Div

namespace DeploymentLifecycle.Lifecycle

/-! How often a wait polls at most, however time passes. Both waits are one loop, which polls until
a poll settles the matter or the deadline has passed, and pauses between two polls. -/

/-- The polls that fit into a time when there is a pause after each: one for each pause that is
begun, and one more at the end. -/
def polls (time pause : Duration) : Nat := time.nanos ⌈/⌉ pause.nanos + 1

section Counting

variable {time left pause : Duration}

theorem polls_mono (shorter : left.nanos ≤ time.nanos) : polls left pause ≤ polls time pause := by
  simp only [polls, Nat.ceilDiv_eq_add_pred_div]
  exact Nat.succ_le_succ (Nat.div_le_div_right (by omega))

variable (positive : 0 < pause.nanos)

include positive

theorem polls_pause (begun : 0 < time.nanos) :
    polls (time - pause) pause + 1 = polls time pause := by
  simp only [polls, Nat.ceilDiv_eq_add_pred_div, Duration.nanos_sub]
  by_cases shorter : time.nanos ≤ pause.nanos
  · have last : (time.nanos + pause.nanos - 1) / pause.nanos = 1 :=
      Nat.div_eq_of_lt_le (by omega) (by omega)
    have passed : time.nanos - pause.nanos + pause.nanos - 1 < pause.nanos := by omega
    rw [last, Nat.div_eq_of_lt passed]
  · have split : time.nanos + pause.nanos - 1 =
        time.nanos - pause.nanos + pause.nanos - 1 + pause.nanos := by omega
    rw [split, Nat.add_div_right _ positive]

theorem polls_le_rounds : polls time pause ≤ rounds time pause := by
  have paused : pause.isZero = false := beq_eq_false_iff_ne.2 positive.ne'
  have fewer : (time.nanos + pause.nanos - 1) / pause.nanos ≤
      (time.nanos + pause.nanos) / pause.nanos := Nat.div_le_div_right (by omega)
  rw [Nat.add_div_right _ positive] at fewer
  simpa [polls, rounds, paused, Nat.ceilDiv_eq_add_pred_div] using fewer

end Counting

section Loop

variable {σ α : Type}

/-- The loop; `poll` comes to a result, or to what is to be known at the next poll. -/
def pollUntil (deadline pause : Duration) (poll : σ → Prog signature (α ⊕ σ)) (expired : σ → α) :
    Nat → σ → Prog signature α
  | 0, state => return expired state
  | rounds + 1, state => do
    match ← poll state with
    | .inl result => return result
    | .inr next =>
      if deadline ≤ (← ask .now) then return expired next
      else
        ask (.sleep pause)
        pollUntil deadline pause poll expired rounds next

/-- How often a trace has such a request. -/
def asked (asks : Request → Prop) [DecidablePred asks] (trace : List (Event signature)) : Nat :=
  trace.countP fun event => asks event.request

theorem asked_append {asks : Request → Prop} [DecidablePred asks]
    {first rest : List (Event signature)} :
    asked asks (first ++ rest) = asked asks first + asked asks rest :=
  List.countP_append

theorem asked_other {asks : Request → Prop} [DecidablePred asks] {event : Event signature}
    {rest : List (Event signature)} (other : ¬ asks event.request) :
    asked asks (event :: rest) = asked asks rest :=
  List.countP_cons_of_neg (by simpa using other)

/-- A poll makes one request of a kind. One that is not met settles nothing, and takes no time on an
idle clock. -/
structure IsPoll (asks : Request → Prop) [DecidablePred asks] (unmet : Event signature → Prop)
    (poll : σ → Prog signature (α ⊕ σ)) : Prop where
  apart : ¬ asks .now ∧ ∀ time, ¬ asks (.sleep time)
  once : ∀ {state trace outcome}, (poll state).Yields trace outcome → asked asks trace = 1
  unsettled : ∀ {state trace outcome}, (poll state).Yields trace outcome →
    (∀ event ∈ trace, asks event.request → unmet event) → ∃ next, outcome = .inr next
  idle : ∀ {state trace outcome start after}, (poll state).Yields trace outcome →
    (∀ event ∈ trace, asks event.request → unmet event) →
      idleClock.Along start trace after → after = start

variable {deadline pause : Duration} {poll : σ → Prog signature (α ⊕ σ)} {expired : σ → α}
  {rounds : Nat} {state : σ} {trace : List (Event signature)} {result : α} {start after : Duration}

/-- What comes of a round when the poll came to an outcome. -/
def Continues (deadline pause : Duration) (expired : σ → α)
    (next : σ → List (Event signature) → α → Prop) (result : α) :
    α ⊕ σ → List (Event signature) → Prop
  | .inl found, rest => rest = [] ∧ result = found
  | .inr state, rest => ∃ reading tail, rest = ⟨.now, reading⟩ :: tail ∧
    if deadline ≤ reading then tail = [] ∧ result = expired state
    else ∃ later, tail = ⟨.sleep pause, ()⟩ :: later ∧ next state later result

theorem yields_pollUntil_succ :
    (pollUntil deadline pause poll expired (rounds + 1) state).Yields trace result ↔
      ∃ outcome polled rest, trace = polled ++ rest ∧ (poll state).Yields polled outcome ∧
        Continues deadline pause expired
          (fun next => (pollUntil deadline pause poll expired rounds next).Yields) result
          outcome rest := by
  rw [pollUntil, Prog.yields_bind]
  refine exists_congr fun outcome => exists_congr fun polled => exists_congr fun rest =>
    and_congr_right fun _ => and_congr_right fun _ => ?_
  cases outcome with
  | inl found => rfl
  | inr next =>
      refine exists_congr fun reading => exists_congr fun tail => and_congr_right fun _ => ?_
      by_cases late : deadline ≤ reading
      · simp only [Prog.bind, if_pos late]
        rfl
      · simp only [Prog.bind, if_neg late]
        constructor
        · rintro ⟨⟨⟩, later, rfl, run⟩
          exact ⟨later, rfl, run⟩
        · rintro ⟨later, rfl, run⟩
          exact ⟨(), later, rfl, run⟩

section Count

variable (positive : 0 < pause.nanos)

include positive

/-- After a round and a pause there is time for one poll less, at most. -/
theorem polls_left {polledAt readAt pausedAt reading : Duration} {polled : List (Event signature)}
    (first : clock.Along start polled polledAt) (look : clock polledAt ⟨.now, reading⟩ readAt)
    (early : ¬ deadline ≤ reading) (paused : clock readAt ⟨.sleep pause, ()⟩ pausedAt) :
    polls (deadline - pausedAt) pause + 1 ≤ polls (deadline - start) pause := by
  have polling := le_of_along first
  obtain ⟨looking, rfl⟩ : polledAt + .zero ≤ readAt ∧ reading = readAt := look
  obtain ⟨pausing, _⟩ : reading + pause ≤ pausedAt ∧ True := paused
  simp only [Duration.le_iff, Duration.nanos_add, Duration.nanos_zero] at *
  have begun : 0 < (deadline - start).nanos := Nat.sub_pos_of_lt (by omega)
  have left : (deadline - pausedAt).nanos ≤ (deadline - start - pause).nanos := by
    simp only [Duration.nanos_sub]
    omega
  rw [← polls_pause positive begun]
  exact Nat.succ_le_succ (polls_mono left)

/-- More rounds than there can be polls make no difference. -/
theorem pollUntil_enough {other : Nat} (enough : polls (deadline - start) pause ≤ rounds)
    (same : polls (deadline - start) pause ≤ other)
    (run : (pollUntil deadline pause poll expired rounds state).Yields trace result)
    (along : clock.Along start trace after) :
    (pollUntil deadline pause poll expired other state).Yields trace result := by
  -- There are more rounds left than polls that there is time for, in both loops.
  induction rounds generalizing state trace start other with
  | zero => exact absurd enough (Nat.not_succ_le_zero _)
  | succ rounds ih =>
      obtain ⟨outcome, polled, rest, rfl, polling, continues⟩ := yields_pollUntil_succ.1 run
      obtain ⟨polledAt, first, along⟩ := Conduct.along_append.1 along
      cases other with
      | zero => exact absurd same (Nat.not_succ_le_zero _)
      | succ other =>
          refine yields_pollUntil_succ.2 ⟨outcome, polled, rest, rfl, polling, ?_⟩
          cases outcome with
          | inl found => exact continues
          | inr next =>
              obtain ⟨reading, tail, rfl, continues⟩ := continues
              obtain ⟨readAt, look, along⟩ := along
              refine ⟨reading, tail, rfl, ?_⟩
              split at continues
              · next late => rwa [if_pos late]
              · next early =>
                obtain ⟨later, rfl, again⟩ := continues
                obtain ⟨pausedAt, paused, along⟩ := along
                have fewer := polls_left positive first look early paused
                rw [if_neg early]
                exact ⟨later, rfl, ih (by omega) (by omega) again along⟩

variable {asks : Request → Prop} [DecidablePred asks] {unmet : Event signature → Prop}
  (isPoll : IsPoll asks unmet poll)

include isPoll

theorem pollUntil_atMost
    (run : (pollUntil deadline pause poll expired rounds state).Yields trace result)
    (along : clock.Along start trace after) :
    asked asks trace ≤ polls (deadline - start) pause := by
  induction rounds generalizing state trace start with
  | zero =>
      rw [show trace = [] from run.1]
      exact Nat.zero_le _
  | succ rounds ih =>
      obtain ⟨outcome, polled, rest, rfl, polling, continues⟩ := yields_pollUntil_succ.1 run
      obtain ⟨polledAt, first, onward⟩ := Conduct.along_append.1 along
      rw [asked_append, isPoll.once polling]
      cases outcome with
      | inl found =>
          obtain ⟨rfl, _⟩ := continues
          exact Nat.succ_le_succ (Nat.zero_le _)
      | inr next =>
          obtain ⟨reading, tail, rfl, continues⟩ := continues
          obtain ⟨readAt, look, onward⟩ := onward
          rw [asked_other isPoll.apart.1]
          split at continues
          · obtain ⟨rfl, _⟩ := continues
            exact Nat.succ_le_succ (Nat.zero_le _)
          · next early =>
            obtain ⟨later, rfl, again⟩ := continues
            obtain ⟨pausedAt, paused, onward⟩ := onward
            have fewer := polls_left positive first look early paused
            have others := ih again onward
            rw [asked_other (isPoll.apart.2 pause)]
            omega

/-- On an idle clock on which no poll is met there are as many polls as there can be. -/
theorem pollUntil_attains (enough : polls (deadline - start) pause ≤ rounds)
    (run : (pollUntil deadline pause poll expired rounds state).Yields trace result)
    (along : idleClock.Along start trace after)
    (allUnmet : ∀ event ∈ trace, asks event.request → unmet event) :
    asked asks trace = polls (deadline - start) pause := by
  induction rounds generalizing state trace start with
  | zero => exact absurd enough (Nat.not_succ_le_zero _)
  | succ rounds ih =>
      obtain ⟨outcome, polled, rest, rfl, polling, continues⟩ := yields_pollUntil_succ.1 run
      obtain ⟨polledAt, first, onward⟩ := Conduct.along_append.1 along
      obtain ⟨unmetNow, unmetLater⟩ := List.forall_mem_append.1 allUnmet
      obtain ⟨next, rfl⟩ := isPoll.unsettled polling unmetNow
      obtain rfl := isPoll.idle polling unmetNow first
      rw [asked_append, isPoll.once polling]
      obtain ⟨reading, tail, rfl, continues⟩ := continues
      obtain ⟨readAt, look, onward⟩ := onward
      obtain ⟨rfl, rfl⟩ : readAt = polledAt + .zero ∧ reading = readAt := look
      rw [asked_other isPoll.apart.1]
      split at continues
      · next late =>
        obtain ⟨rfl, _⟩ := continues
        have passed : (deadline - polledAt).nanos = 0 := Nat.sub_eq_zero_of_le late
        simp [polls, passed, asked]
      · next early =>
        obtain ⟨later, rfl, again⟩ := continues
        obtain ⟨pausedAt, ⟨paused, _⟩, onward⟩ := onward
        have begun : 0 < (deadline - polledAt).nanos := Nat.sub_pos_of_lt (Nat.lt_of_not_le early)
        have left : deadline - polledAt - pause = deadline - pausedAt := by
          rw [paused]
          exact Duration.eq_of_nanos (Nat.sub_sub _ _ _)
        rw [← polls_pause positive begun, left] at enough ⊢
        have unmet := (List.forall_mem_cons.1 (List.forall_mem_cons.1 unmetLater).2).2
        rw [asked_other (isPoll.apart.2 pause), Nat.add_comm]
        exact congrArg (· + 1) (ih (Nat.le_of_succ_le_succ enough) again onward unmet)

end Count

/-- Pauses, if there is something to wait for, and then polls for a time. -/
def pollFor (opens time pause : Duration) (poll : Duration → σ → Prog signature (α ⊕ σ))
    (expired : σ → α) (state : σ) (rounds : Nat) : Prog signature α := do
  if !opens.isZero then ask (.sleep opens)
  let deadline := (← ask .now) + time
  pollUntil deadline pause (poll deadline) expired rounds state

section Whole

variable {opens time : Duration} {asks : Request → Prop} [DecidablePred asks]
  {unmet : Event signature → Prop} {poll : Duration → σ → Prog signature (α ⊕ σ)}

def opening (opens : Duration) : List (Event signature) :=
  if opens.isZero then [] else [⟨.sleep opens, ()⟩]

theorem yields_pollFor : (pollFor opens time pause poll expired state rounds).Yields trace result ↔
    ∃ reading rest, trace = opening opens ++ ⟨.now, reading⟩ :: rest ∧
      (pollUntil (reading + time) pause (poll (reading + time)) expired rounds state).Yields rest
        result := by
  rw [pollFor, opening]
  cases opens.isZero with
  | true => rfl
  | false =>
      constructor
      · rintro ⟨⟨⟩, _, rfl, reading, rest, rfl, run⟩
        exact ⟨reading, rest, rfl, run⟩
      · rintro ⟨reading, rest, rfl, run⟩
        exact ⟨(), _, rfl, reading, rest, rfl, run⟩

theorem asked_opening (apart : ¬ asks .now ∧ ∀ time, ¬ asks (.sleep time)) {reading : Duration}
    {rest : List (Event signature)} :
    asked asks (opening opens ++ ⟨.now, reading⟩ :: rest) = asked asks rest := by
  rw [asked_append, asked_other apart.1, opening]
  split
  · simp [asked]
  · rw [asked_other (apart.2 opens)]
    simp [asked]

theorem time_after {reading : Duration} : reading + time - reading = time :=
  Duration.eq_of_nanos (Nat.add_sub_cancel_left _ _)

end Whole

/-- Whatever time anything takes, the loop comes to an end, which more rounds than the bound do not
put off, and polls as often as the bound at most; and that often if no poll is met or takes time. -/
structure Bounded (loop : Nat → Prog signature α) (asks : Request → Prop) [DecidablePred asks]
    (unmet : Event signature → Prop) (bound : Nat) : Prop where
  runs : ∀ (timing : Timing) rounds start, ∃ trace result after past,
    (loop rounds).Yields trace result ∧ timing.conduct.Along (start, []) trace (after, past) ∧
      clock.Along start trace after ∧
      ((∀ past request, (timing past request).2 = .zero) → idleClock.Along start trace after)
  endsItself : ∀ rounds other, bound ≤ rounds → bound ≤ other → ∀ trace result start after,
    (loop rounds).Yields trace result → clock.Along start trace after →
      (loop other).Yields trace result
  atMost : ∀ rounds trace result start after, (loop rounds).Yields trace result →
    clock.Along start trace after → asked asks trace ≤ bound
  attained : ∀ rounds, bound ≤ rounds → ∀ trace result start after,
    (loop rounds).Yields trace result → idleClock.Along start trace after →
      (∀ event ∈ trace, asks event.request → unmet event) → asked asks trace = bound

theorem pollFor_bounded {opens time : Duration} {asks : Request → Prop} [DecidablePred asks]
    {unmet : Event signature → Prop} {poll : Duration → σ → Prog signature (α ⊕ σ)}
    (positive : 0 < pause.nanos) (isPoll : ∀ deadline, IsPoll asks unmet (poll deadline)) :
    Bounded (pollFor opens time pause poll expired state) asks unmet (polls time pause) where
  runs timing rounds start := by
    obtain ⟨trace, result, after, past, run, along⟩ :=
      timing.exists_run (pollFor opens time pause poll expired state rounds) start
    exact ⟨trace, result, after, past, run, along, Timing.along_clock along,
      fun swift => Timing.along_idle swift along⟩
  endsItself rounds other enough same trace result start after run along := by
    obtain ⟨reading, rest, rfl, polling⟩ := yields_pollFor.1 run
    obtain ⟨_, _, readAt, ⟨_, rfl⟩, onward⟩ := Conduct.along_append.1 along
    refine yields_pollFor.2 ⟨reading, rest, rfl, ?_⟩
    apply pollUntil_enough positive _ _ polling onward <;> rwa [time_after]
  atMost rounds trace result start after run along := by
    obtain ⟨reading, rest, rfl, polling⟩ := yields_pollFor.1 run
    obtain ⟨_, _, readAt, ⟨_, rfl⟩, onward⟩ := Conduct.along_append.1 along
    have bound := pollUntil_atMost positive (isPoll _) polling onward
    rwa [time_after, ← asked_opening (isPoll .zero).apart] at bound
  attained rounds enough trace result start after run along allUnmet := by
    obtain ⟨reading, rest, rfl, polling⟩ := yields_pollFor.1 run
    obtain ⟨_, _, readAt, ⟨_, rfl⟩, onward⟩ := Conduct.along_append.1 along
    have unmet := (List.forall_mem_cons.1 (List.forall_mem_append.1 allUnmet).2).2
    have all := pollUntil_attains positive (isPoll _) (by rwa [time_after]) polling onward unmet
    rwa [time_after, ← asked_opening (isPoll .zero).apart] at all

end Loop

/-- Pings once before a deadline. -/
def pingOnce (deadline : Duration) : Prog signature (Bool ⊕ Unit) := do
  let remaining := deadline - (← ask .now)
  match ← ask (.ping remaining) with
  | .answered _ => return .inl true
  | .pending => return .inl false
  | .failed _ => return .inr ()

def PingFails : Event signature → Prop
  | ⟨.ping _, .failed _⟩ => True
  | _ => False

theorem pingOnce_isPoll (deadline : Duration) :
    IsPoll Request.IsPing PingFails fun _ : Unit => pingOnce deadline where
  apart := ⟨id, fun _ => id⟩
  once run := by
    obtain ⟨reading, _, rfl, reply, _, rfl, run⟩ := run
    cases reply <;> (obtain ⟨rfl, _⟩ := run; rfl)
  unsettled run unmet := by
    obtain ⟨reading, _, rfl, reply, _, rfl, run⟩ := run
    cases reply with
    | failed error => exact ⟨(), run.2⟩
    | _ => exact (unmet _ (.tail _ (.head _)) trivial).elim
  idle run unmet along := by
    obtain ⟨reading, _, rfl, reply, _, rfl, run⟩ := run
    cases reply with
    | failed error =>
        obtain ⟨rfl, _⟩ := run
        obtain ⟨_, ⟨rfl, _⟩, _, ⟨rfl, _⟩, rfl⟩ := along
        rfl
    | _ => exact (unmet _ (.tail _ (.head _)) trivial).elim

theorem pingUntil_eq {deadline delay : Duration} {rounds : Nat} : pingUntil deadline delay rounds =
    pollUntil deadline delay (fun _ => pingOnce deadline) (fun _ => false) rounds () := by
  induction rounds with
  | zero => rfl
  | succ rounds ih =>
      rw [pingUntil, ih, pollUntil, pingOnce]
      simp only [bind_assoc]
      congr 1
      funext now
      congr 1
      funext reply
      cases reply <;> rfl

/-- The wait for an agent, with a number of rounds of its own. -/
def reachableWithin (policy : PingPolicy) (rounds : Nat) : Prog signature Bool := do
  let deadline := (← ask .now) + policy.timeout
  pingUntil deadline policy.delay rounds

theorem reachableWithin_eq {policy : PingPolicy} : reachableWithin policy =
    pollFor .zero policy.timeout policy.delay (fun deadline _ => pingOnce deadline) (fun _ => false)
      () := by
  funext rounds
  simp only [reachableWithin, pingUntil_eq]
  rfl

/-- The wait for an agent pings in the time that it has as often as that needs. -/
theorem reachableWithin_bounded {policy : PingPolicy} (positive : 0 < policy.delay.nanos) :
    Bounded (reachableWithin policy) Request.IsPing PingFails
      (polls policy.timeout policy.delay) := by
  rw [reachableWithin_eq]
  exact pollFor_bounded positive pingOnce_isPoll

/-- Looks once at the instance; `seen` is what was seen of it before. -/
def lookOnce (seen : Option String) :
    Prog signature (Except LifecycleError Unit ⊕ Option String) := do
  match ← ask .getState with
  | .ok state => return if state.isRunning then .inl (.ok ()) else .inr (some state.jobState)
  | .error _ => return .inr seen

def IsLook : Request → Prop
  | .getState => True
  | _ => False

instance : DecidablePred IsLook
  | .getState => isTrue trivial
  | .ping _ | .now | .sleep _ | .stageBegun _ | .stageEnded .. | .store _ | .hasVm _ | .delete ..
  | .runScript .. | .drain _ | .stop | .start | .listDisk | .unmountDisk _ => isFalse id

/-- The look fails, or shows an instance that does not run. -/
def LookFails : Event signature → Prop
  | ⟨.getState, .ok state⟩ => state.isRunning = false
  | ⟨.getState, .error _⟩ => True
  | _ => False

theorem lookOnce_isPoll : IsPoll IsLook LookFails lookOnce where
  apart := ⟨id, fun _ => id⟩
  once run := by
    obtain ⟨answer, _, rfl, run⟩ := run
    cases answer <;> (obtain ⟨rfl, _⟩ := run; rfl)
  unsettled run unmet := by
    obtain ⟨answer, _, rfl, run⟩ := run
    cases answer with
    | error error => exact ⟨_, run.2⟩
    | ok state =>
        have stopped : state.isRunning = false := unmet _ (.head _) trivial
        exact ⟨some state.jobState, by simpa [stopped] using run.2⟩
  idle run unmet along := by
    obtain ⟨answer, _, rfl, run⟩ := run
    cases answer <;> (
      obtain ⟨rfl, _⟩ := run
      obtain ⟨_, ⟨rfl, _⟩, rfl⟩ := along
      rfl)

theorem watchUntil_eq {deadline : Duration} {policy : UpdatePolicy} {name : InstanceName}
    {rounds : Nat} {seen : Option String} : (watchUntil deadline policy name rounds seen).run =
    pollUntil deadline policy.pollInterval lookOnce
      (fun seen => .error (watchUntil.expired policy name seen)) rounds seen := by
  induction rounds generalizing seen with
  | zero => rfl
  | succ rounds ih =>
      simp only [pollUntil, ← ih]
      change ask .getState >>= _ = (ask .getState >>= _) >>= _
      rw [bind_assoc]
      congr 1
      funext answer
      cases answer with
      | error error => rfl
      | ok found =>
          dsimp only [ExceptT.bindCont]
          cases found.isRunning <;> rfl

/-- The wait for an instance that runs, with a number of rounds of its own. -/
def runningWithin (policy : UpdatePolicy) (name : InstanceName) (rounds : Nat) : Program Unit := do
  if !policy.watch.opens.isZero then
    ask (.sleep policy.watch.opens)
  let deadline := (← ask .now) + policy.watch.window
  watchUntil deadline policy name rounds none

theorem runningWithin_eq {policy : UpdatePolicy} {name : InstanceName} :
    (fun rounds => (runningWithin policy name rounds).run) =
      pollFor policy.watch.opens policy.watch.window policy.pollInterval (fun _ => lookOnce)
        (fun seen => .error (watchUntil.expired policy name seen)) none := by
  funext rounds
  simp only [pollFor, ← watchUntil_eq, runningWithin]
  cases policy.watch.opens.isZero <;> rfl

theorem runningWithin_bounded {policy : UpdatePolicy} {name : InstanceName}
    (positive : 0 < policy.pollInterval.nanos) :
    Bounded (fun rounds => (runningWithin policy name rounds).run) IsLook LookFails
      (polls policy.watch.window policy.pollInterval) := by
  rw [runningWithin_eq]
  exact pollFor_bounded positive fun _ => lookOnce_isPoll

end DeploymentLifecycle.Lifecycle
