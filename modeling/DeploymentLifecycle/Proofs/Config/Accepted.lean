import DeploymentLifecycle.Config.Reading
import DeploymentLifecycle.Proofs.Lifecycle.Polling

namespace DeploymentLifecycle

/-! What an accepted configuration ensures: a watch closes after it has opened, nothing polls
without a pause, and so both waits come to an end. -/

namespace Yaml.Reading

variable {α β : Type} {holds : α → Prop} {goal : β → Prop}

/-- Whatever is read, it holds of the value that is come to. -/
def Gives (reading : Reading α) (holds : α → Prop) : Prop :=
  ∀ anchored left value rest, (reading.run anchored).run left = some (value, rest) → holds value

theorem Gives.bind {reading : Reading α} {next : α → Reading β} (first : reading.Gives holds)
    (rest : ∀ value, holds value → (next value).Gives goal) : (reading >>= next).Gives goal := by
  intro anchored left value after read
  simp only [ReaderT.run_bind, StateT.run_bind, Option.bind_eq_bind,
    Option.bind_eq_some_iff] at read
  obtain ⟨⟨found, middle⟩, start, finish⟩ := read
  exact rest found (first anchored left found middle start) anchored middle value after finish

theorem gives_any {reading : Reading α} : reading.Gives fun _ => True :=
  fun _ _ _ _ _ => trivial

/-- What comes first makes no difference to what is read after it. -/
theorem Gives.after {reading : Reading α} {next : α → Reading β}
    (rest : ∀ value, (next value).Gives goal) : (reading >>= next).Gives goal :=
  gives_any.bind fun value _ => rest value

theorem gives_pure {value : α} (held : holds value) : (pure value : Reading α).Gives holds := by
  intro anchored left other rest read
  cases read
  exact held

theorem gives_failure : (failure : Reading α).Gives holds := by
  intro anchored left value rest read
  cases read

theorem gives_lift {option : Option α} (each : ∀ value, option = some value → holds value) :
    (liftM option : Reading α).Gives holds := by
  intro anchored left value rest read
  cases option with
  | none => cases read
  | some found =>
      cases read
      exact each _ rfl

theorem gives_optional {reading : Node → Reading α} {slot : Option Node}
    (each : ∀ node, (reading node).Gives holds) :
    (optional reading slot).Gives fun found => ∀ value, found = some value → holds value := by
  cases slot with
  | none => exact gives_pure nofun
  | some node =>
      rw [optional, map_eq_pure_bind]
      refine (each node).bind fun value held => gives_pure fun other same => ?_
      obtain rfl := Option.some.inj same
      exact held

end Yaml.Reading

open Yaml.Reading

/-- A watch does not close before it opens. -/
def WatchTime.Ordered (watch : WatchTime) : Prop := watch.opens ≤ watch.closes

theorem WatchTime.ordered_of_ofText {text : String} {watch : WatchTime}
    (read : WatchTime.ofText text = .ok watch) : watch.Ordered := by
  rw [ofText] at read
  split at read
  · rw [between] at read
    split at read
    · cases read
    · next inOrder =>
      cases read
      exact Nat.le_of_not_lt inOrder
  · cases read

theorem UpdatePolicy.ordered_of_ofTexts? {watch interval : Option String} {policy : UpdatePolicy}
    (read : UpdatePolicy.ofTexts? watch interval = some policy) : policy.watch.Ordered := by
  -- The interval does not matter: whatever it is, the watch is the one that was read before.
  have given : ∀ {found : WatchTime} {interval : Option Duration}, found.Ordered →
      (do return ⟨found, ← interval⟩ : Option UpdatePolicy) = some policy →
        policy.watch.Ordered := by
    intro found interval ordered taken
    obtain ⟨_, _, same⟩ := Option.bind_eq_some_iff.1 taken
    cases same
    exact ordered
  cases watch with
  | none =>
      have ordered : standard.watch.Ordered := Nat.zero_le _
      cases interval with
      | none => exact @given _ (some standard.pollInterval) ordered read
      | some text => exact @given _ (DurationText.read? text) ordered read
  | some text =>
      obtain ⟨found, taken, read⟩ := Option.bind_eq_some_iff.1 read
      cases parsed : WatchTime.ofText text with
      | error error => simp [parsed, Except.toOption] at taken
      | ok watch =>
          obtain rfl : watch = found := by simpa [parsed, Except.toOption] using taken
          have ordered := WatchTime.ordered_of_ofText parsed
          cases interval <;> exact given ordered read

theorem UpdatePolicy.ofNode_gives (node : Yaml.Node) :
    (UpdatePolicy.ofNode node).Gives fun policy => policy.watch.Ordered := by
  refine Gives.after fun slots => ?_
  split
  · exact Gives.after fun _ => Gives.after fun _ => gives_lift fun _ => ordered_of_ofTexts?
  · exact gives_failure

namespace Config

theorem ofNode_gives (node : Yaml.Node) :
    (ofNode node).Gives fun config => config.update.watch.Ordered := by
  refine Gives.after fun slots => ?_
  split
  · refine Gives.after fun _ => Gives.after fun _ => Gives.after fun _ => Gives.after fun _ =>
      Gives.after fun _ => (gives_optional UpdatePolicy.ofNode_gives).bind fun update each => ?_
    apply gives_pure
    cases update with
    | none => exact Nat.zero_le _
    | some update => exact each update rfl
  · exact gives_failure

theorem pos_of_not_isZero {time : Duration} (visible : ¬ time.isZero) : 0 < time.nanos :=
  Nat.pos_of_ne_zero fun zero => visible (beq_iff_eq.2 zero)

/-- What a configuration is accepted for, as far as it has to do with time. -/
structure Timed (config : Config) : Prop where
  pauses : 0 < config.agent.ping.delay.nanos
  polls : 0 < config.update.pollInterval.nanos
  watch : config.update.watch.Ordered

theorem pauses_of_validate {config : Config} (valid : config.validate = .ok ()) :
    ¬ config.agent.ping.delay.isZero ∧ ¬ config.update.pollInterval.isZero := by
  rw [validate] at valid
  grind

/-- An accepted text is a document, whose configuration is valid. -/
theorem exists_of_ofYaml {text : String} {config : Config} (accepted : ofYaml text = .ok config) :
    ∃ node, Yaml.Node.ofText? text = some node ∧ config.validate = .ok () ∧
      ∃ anchored left rest, ((ofNode node).run anchored).run left = some (config, rest) := by
  rw [ofYaml] at accepted
  split at accepted
  · next found read =>
    obtain ⟨node, parsed, taken⟩ := Option.bind_eq_some_iff.1 read
    obtain ⟨⟨config, left⟩, run, rfl⟩ := Option.map_eq_some_iff.1 taken
    cases valid : config.validate with
    | error error =>
        rw [valid] at accepted
        cases accepted
    | ok _ =>
        rw [valid] at accepted
        cases accepted
        exact ⟨node, parsed, valid, _, _, left, run⟩
  · cases accepted

theorem timed_of_ofYaml {text : String} {config : Config} (accepted : ofYaml text = .ok config) :
    config.Timed := by
  obtain ⟨node, _, valid, _, _, _, run⟩ := exists_of_ofYaml accepted
  obtain ⟨pauses, polls⟩ := pauses_of_validate valid
  exact ⟨pos_of_not_isZero pauses, pos_of_not_isZero polls, ofNode_gives node _ _ _ _ run⟩

open Lifecycle (Bounded IsLook LookFails PingFails Request isReachable polls reachableWithin
  runningWithin untilRunning)

/-- An accepted configuration bounds both waits: whatever is answered and whatever time that takes,
they end by themselves, with so many pings and looks at most as there are pauses begun in the time
they have, and one more. The clock has a reading for their deadlines. -/
theorem accepted_waits_bounded {text : String} {config : Config}
    (accepted : ofYaml text = .ok config) :
    let ping := config.agent.ping
    let update := config.update
    update.watch.opens + update.watch.window = update.watch.closes ∧
    (∃ rounds, polls ping.timeout ping.delay ≤ rounds ∧
      isReachable ping = reachableWithin ping rounds) ∧
    Bounded (reachableWithin ping) Request.IsPing PingFails (polls ping.timeout ping.delay) ∧
    ∀ name, (∃ rounds, polls update.watch.window update.pollInterval ≤ rounds ∧
        untilRunning update name = runningWithin update name rounds) ∧
      Bounded (fun rounds => (runningWithin update name rounds).run) IsLook LookFails
        (polls update.watch.window update.pollInterval) := by
  obtain ⟨pauses, polled, watch⟩ := timed_of_ofYaml accepted
  refine ⟨Duration.eq_of_nanos (Nat.add_sub_cancel' watch), ?_, ?_, fun name => ⟨?_, ?_⟩⟩
  · exact ⟨_, Lifecycle.polls_le_rounds pauses, rfl⟩
  · exact Lifecycle.reachableWithin_bounded pauses
  · exact ⟨_, Lifecycle.polls_le_rounds polled, rfl⟩
  · exact Lifecycle.runningWithin_bounded polled

/-- One line: `{cpi: {command: c}, agent: {url: u, ping_timeout: 2ns, ping_delay: 2ns},`
`update: {watch_time: 5-8, poll_interval: 2ms}}`. -/
def shortWaitsChars : List Char :=
  ['{', 'c', 'p', 'i', ':', ' ', '{', 'c', 'o', 'm', 'm', 'a', 'n', 'd', ':', ' ', 'c', '}', ',',
    ' ', 'a', 'g', 'e', 'n', 't', ':', ' ', '{', 'u', 'r', 'l', ':', ' ', 'u', ',', ' ', 'p',
    'i', 'n', 'g', '_', 't', 'i', 'm', 'e', 'o', 'u', 't', ':', ' ', '2', 'n', 's', ',', ' ',
    'p', 'i', 'n', 'g', '_', 'd', 'e', 'l', 'a', 'y', ':', ' ', '2', 'n', 's', '}', ',', ' ',
    'u', 'p', 'd', 'a', 't', 'e', ':', ' ', '{', 'w', 'a', 't', 'c', 'h', '_', 't', 'i', 'm',
    'e', ':', ' ', '5', '-', '8', ',', ' ', 'p', 'o', 'l', 'l', '_', 'i', 'n', 't', 'e', 'r',
    'v', 'a', 'l', ':', ' ', '2', 'm', 's', '}', '}']

theorem short_waits_bounded : ∃ text config trace start after,
    ofYaml text = .ok config ∧
    config.update.watch.opens + config.update.watch.window = config.update.watch.closes ∧
    polls config.update.watch.window config.update.pollInterval = 3 ∧
    (isReachable config.agent.ping).Yields trace false ∧
    Lifecycle.idleClock.Along start trace after ∧
    Lifecycle.asked Request.IsPing trace = polls config.agent.ping.timeout config.agent.ping.delay ∧
    Lifecycle.asked Request.IsPing trace = 2 := by
  let text := String.ofList shortWaitsChars
  let ping : PingPolicy := ⟨⟨2⟩, ⟨2⟩⟩
  let update : UpdatePolicy := ⟨⟨.ofMillis 5, .ofMillis 8⟩, .ofMillis 2⟩
  have read : (ofYaml text).toOption.map (fun config => (config.agent.ping, config.update)) =
      some (ping, update) := by decide +kernel
  obtain ⟨config, taken, waits⟩ := Option.map_eq_some_iff.1 read
  obtain ⟨pings, updates⟩ := Prod.mk.inj waits
  have accepted : ofYaml text = .ok config := by
    cases parsed : ofYaml text with
    | error error =>
        rw [parsed] at taken
        cases taken
    | ok other =>
        rw [parsed] at taken
        cases taken
        rfl
  let failure : AgentError := .timeout "ping" .zero
  let round (time : Duration) (limit : Duration) : List (Event Lifecycle.signature) :=
    [⟨.now, time⟩, ⟨.ping limit, .failed failure⟩, ⟨.now, time⟩]
  let trace : List (Event Lifecycle.signature) := ⟨.now, .zero⟩ :: round .zero ping.timeout ++
    ⟨.sleep ping.delay, ()⟩ :: round ping.timeout .zero
  have run : (isReachable ping).Yields trace false := by
    repeat refine ⟨_, _, rfl, ?_⟩
    exact ⟨rfl, rfl⟩
  have along : Lifecycle.idleClock.Along .zero trace ping.timeout :=
    ⟨_, ⟨rfl, rfl⟩, _, ⟨rfl, rfl⟩, _, ⟨rfl, trivial⟩, _, ⟨rfl, rfl⟩, _, ⟨rfl, trivial⟩,
      _, ⟨rfl, rfl⟩, _, ⟨rfl, trivial⟩, _, ⟨rfl, rfl⟩, rfl⟩
  have unmet : ∀ event ∈ trace, Request.IsPing event.request → PingFails event := by
    repeat refine List.forall_mem_cons.2 ⟨by simp [Request.IsPing, PingFails], ?_⟩
    exact List.forall_mem_nil _
  obtain ⟨watch, ⟨rounds, enough, same⟩, pinging, looking⟩ := accepted_waits_bounded accepted
  rw [pings] at enough same pinging
  rw [same] at run
  have attained := pinging.attained rounds enough trace false _ _ run along unmet
  refine ⟨text, config, trace, .zero, ping.timeout, accepted, watch, ?_, ?_, along, ?_, rfl⟩
  · rw [updates]
    decide
  · rw [pings, same]
    exact run
  · rw [pings]
    exact attained

end Config

end DeploymentLifecycle
