import DeploymentLifecycle.Policy.Waiting
import DeploymentLifecycle.Proofs.Json.RoundTrip
import DeploymentLifecycle.Proofs.Policy.WatchTime
import DeploymentLifecycle.Proofs.Time.DurationText

namespace DeploymentLifecycle.UpdatePolicy

/-! A policy is read as it was written, and every policy that is read can be written so. -/

/-- The watch is between two counts of milliseconds, and the interval is one of seconds and
nanoseconds, each of which a word holds. -/
structure Representable (policy : UpdatePolicy) : Prop where
  watch : ∃ start stop, policy.watch = WatchTime.ofCounts start stop ∧ start ≤ stop ∧ stop < 2 ^ 64
  interval : policy.pollInterval.seconds < 2 ^ 64

variable {policy : UpdatePolicy} {text : String} {watch interval : Option String}

theorem ofTexts?_texts (fits : policy.Representable) :
    ofTexts? (some policy.watch.toText) (some (DurationText.print policy.pollInterval)) =
      some policy := by
  obtain ⟨start, stop, same, ordered, bound⟩ := fits.watch
  have watch : WatchTime.ofText policy.watch.toText = .ok policy.watch := by
    rw [same]
    exact WatchTime.ofText_toText ordered bound
  have interval := DurationText.read?_print fits.interval
  simp [ofTexts?, watch, interval, Except.toOption]

theorem ofTree?_toJson (fits : policy.Representable) : ofTree? policy.toJson.toTree = some policy := by
  have fields : policy.toJson.toTree.record? fieldNames =
      some [some (.string (some policy.watch.toText)),
        some (.string (some (DurationText.print policy.pollInterval)))] := by
    simp [toJson, Json.toTree, Json.fieldsToTree, Json.Tree.record?, fieldNames,
      Json.Tree.takeFields?, Json.Tree.takeField?]
  simp [ofTree?, fields, fieldText?, Json.Tree.toText?, ofTexts?_texts fits]

theorem toJson_whole : policy.toJson.Whole := ⟨trivial, trivial, trivial⟩

theorem ofText?_toJson (fits : policy.Representable) (layout : Json.Layout) :
    (Json.Tree.ofText? (String.ofList (policy.toJson.chars layout 0))).bind ofTree? =
      some policy := by
  rw [Json.ofText?_chars toJson_whole, Option.bind_some, ofTree?_toJson fits]

theorem standard_representable : standard.Representable where
  watch := ⟨0, 300_000, rfl, by decide, by decide⟩
  interval := by decide

theorem ofTexts?_eq : ofTexts? watch interval = do
    let window ← watch.elim (some standard.watch) fun text => (WatchTime.ofText text).toOption
    let pause ← interval.elim (some standard.pollInterval) DurationText.read?
    return ⟨window, pause⟩ := by
  cases watch <;> cases interval <;> rfl

theorem representable_of_ofTexts? (read : ofTexts? watch interval = some policy) :
    policy.Representable := by
  rw [ofTexts?_eq] at read
  obtain ⟨found, window, rest⟩ := Option.bind_eq_some_iff.1 read
  obtain ⟨pause, pauses, same⟩ := Option.bind_eq_some_iff.1 rest
  obtain rfl := Option.some.inj same
  constructor
  · cases watch with
    | none => exact Option.some.inj window ▸ standard_representable.watch
    | some text =>
        cases parsed : WatchTime.ofText text with
        | error error => simp [parsed, Except.toOption] at window
        | ok watch =>
            obtain rfl : watch = found := by simpa [parsed, Except.toOption] using window
            obtain ⟨start, stop, names, ordered, same⟩ := WatchTime.ofText_eq_ok_iff.1 parsed
            exact ⟨start, stop, same, ordered, names.stop_lt⟩
  · cases interval with
    | none => exact Option.some.inj pauses ▸ standard_representable.interval
    | some text => exact DurationText.seconds_lt_of_read? pauses

theorem representable_of_ofTree? {tree : Json.Tree} (read : ofTree? tree = some policy) :
    policy.Representable := by
  obtain ⟨slots, -, rest⟩ := Option.bind_eq_some_iff.1 read
  split at rest
  · obtain ⟨watch, -, rest⟩ := Option.bind_eq_some_iff.1 rest
    obtain ⟨interval, -, rest⟩ := Option.bind_eq_some_iff.1 rest
    exact representable_of_ofTexts? rest
  · cases rest

/-- A policy whose watch is in whole milliseconds, and whose interval is any that seconds and
nanoseconds make, is read as it was written; and so is whatever policy any text was accepted as,
with fields left out or not. -/
theorem policies_read_back :
    (∀ policy : UpdatePolicy, policy.Representable → ∀ layout,
      (Json.Tree.ofText? (String.ofList (policy.toJson.chars layout 0))).bind ofTree? =
        some policy) ∧
    ∀ text policy, (Json.Tree.ofText? text).bind ofTree? = some policy →
      policy.Representable ∧ ∀ layout,
        (Json.Tree.ofText? (String.ofList (policy.toJson.chars layout 0))).bind ofTree? =
          some policy := by
  refine ⟨fun policy fits layout => ofText?_toJson fits layout, fun text policy read => ?_⟩
  obtain ⟨tree, -, taken⟩ := Option.bind_eq_some_iff.1 read
  have fits := representable_of_ofTree? taken
  exact ⟨fits, ofText?_toJson fits⟩

theorem partial_policy_read_back :
    let text := (Json.object [("poll_interval", .string "1h 90s 1500us")]).compact
    let policy : UpdatePolicy := ⟨WatchTime.ofCounts 0 300_000, ⟨3_690_001_500_000⟩⟩
    policy.Representable ∧ (Json.Tree.ofText? text).bind ofTree? = some policy ∧
      (Json.Tree.ofText? policy.toJson.compact).bind ofTree? = some policy ∧
      (Json.Tree.ofText? policy.toJson.pretty).bind ofTree? = some policy := by
  intro text policy
  have fits : policy.Representable := ⟨⟨0, 300_000, rfl, by decide, by decide⟩, by decide⟩
  have interval : DurationText.read? "1h 90s 1500us" = some ⟨3_690_001_500_000⟩ := by decide
  have read : (Json.Tree.ofText? text).bind ofTree? = some policy := by
    have whole : (Json.object [("poll_interval", .string "1h 90s 1500us")]).Whole :=
      ⟨trivial, trivial⟩
    have tree := Json.ofText?_chars whole .compact
    rw [show Json.Tree.ofText? text = _ from tree, Option.bind_some]
    exact congrArg (Option.map (UpdatePolicy.mk .standard)) interval
  exact ⟨fits, read, policies_read_back.1 policy fits .compact,
    (policies_read_back.2 text policy read).2 .indented⟩

end DeploymentLifecycle.UpdatePolicy
