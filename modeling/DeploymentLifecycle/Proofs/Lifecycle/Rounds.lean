import DeploymentLifecycle.Proofs.Lifecycle.Polling

namespace DeploymentLifecycle.Lifecycle

/-! A wait as the rounds that it goes through, without a count of them, and the log of its polls. -/

section Rounds

variable {σ α : Type}

/-- A poll settles the wait, or the deadline has passed when it is over, or there is a pause and
then another one. -/
inductive Rounds (deadline pause : Duration) (poll : σ → Prog signature (α ⊕ σ)) (expired : σ → α) :
    σ → List (Event signature) → α → Prop
  | settled {state : σ} {polled : List (Event signature)} {found : α}
      (polling : (poll state).Yields polled (.inl found)) :
      Rounds deadline pause poll expired state polled found
  | lapsed {state next : σ} {polled : List (Event signature)} {reading : Duration}
      (polling : (poll state).Yields polled (.inr next)) (late : deadline ≤ reading) :
      Rounds deadline pause poll expired state (polled ++ [⟨.now, reading⟩]) (expired next)
  | again {state next : σ} {polled rest : List (Event signature)} {reading : Duration} {result : α}
      (polling : (poll state).Yields polled (.inr next)) (early : ¬ deadline ≤ reading)
      (onward : Rounds deadline pause poll expired next rest result) :
      Rounds deadline pause poll expired state
        (polled ++ ⟨.now, reading⟩ :: ⟨.sleep pause, ()⟩ :: rest) result

variable {deadline pause : Duration} {poll : σ → Prog signature (α ⊕ σ)} {expired : σ → α}
  {rounds : Nat} {state : σ} {trace : List (Event signature)} {result : α} {start after : Duration}

/-- A loop that has as many rounds as there is time for never runs out of them. -/
theorem rounds_of_pollUntil (positive : 0 < pause.nanos)
    (enough : polls (deadline - start) pause ≤ rounds)
    (run : (pollUntil deadline pause poll expired rounds state).Yields trace result)
    (along : clock.Along start trace after) :
    Rounds deadline pause poll expired state trace result := by
  -- The clock shows later times with each round, so that fewer rounds suffice for what is left.
  induction rounds generalizing state trace start with
  | zero => exact absurd enough (Nat.not_succ_le_zero _)
  | succ rounds ih =>
      obtain ⟨outcome, polled, rest, rfl, polling, continues⟩ := yields_pollUntil_succ.1 run
      obtain ⟨polledAt, first, onward⟩ := Conduct.along_append.1 along
      cases outcome with
      | inl found =>
          obtain ⟨rfl, rfl⟩ := continues
          rw [List.append_nil]
          exact .settled polling
      | inr next =>
          obtain ⟨reading, tail, rfl, continues⟩ := continues
          obtain ⟨readAt, look, onward⟩ := onward
          split at continues
          · next late =>
            obtain ⟨rfl, rfl⟩ := continues
            exact .lapsed polling late
          · next early =>
            obtain ⟨later, rfl, again⟩ := continues
            obtain ⟨pausedAt, paused, onward⟩ := onward
            have fewer := polls_left positive first look early paused
            exact .again polling early (ih (by omega) again onward)

theorem opened_along {opens : Duration} (along : clock.Along start (opening opens) after) :
    start + opens ≤ after := by
  rw [opening] at along
  split at along
  · next none =>
    obtain rfl : opens = .zero := Duration.eq_of_nanos (beq_iff_eq.1 none)
    exact le_of_along along
  · obtain ⟨_, ⟨passed, _⟩, rfl⟩ := along
    exact passed

theorem rounds_of_pollFor {opens time : Duration} {poll : Duration → σ → Prog signature (α ⊕ σ)}
    (positive : 0 < pause.nanos) (enough : polls time pause ≤ rounds)
    (run : (pollFor opens time pause poll expired state rounds).Yields trace result)
    (along : clock.Along start trace after) :
    ∃ (begun : Duration) (rest : List (Event signature)),
      trace = opening opens ++ ⟨.now, begun⟩ :: rest ∧ start + opens ≤ begun ∧
      Rounds (begun + time) pause (poll (begun + time)) expired state rest result := by
  obtain ⟨begun, rest, rfl, polling⟩ := yields_pollFor.1 run
  obtain ⟨opened, first, _, ⟨passed, rfl⟩, onward⟩ := Conduct.along_append.1 along
  refine ⟨begun, rest, rfl, Nat.le_trans (opened_along first) passed, ?_⟩
  exact rounds_of_pollUntil positive (by rwa [time_after]) polling onward

end Rounds

section Log

variable {ρ : Type} {pause : Duration} {events : ρ → List (Event signature)}
  {goesOn settles : ρ → Prop} {entry : ρ} {entries : List ρ} {trace : List (Event signature)}
  {settled : Prop}

/-- The polls of a wait are all that happens in it, but for a pause between two of them. There is
one at least, and exactly those that let the wait go on are followed by another. The wait is settled
exactly if a poll settles it and all before it let it go on. -/
structure PollLog (pause : Duration) (events : ρ → List (Event signature))
    (goesOn settles : ρ → Prop) (entries : List ρ) (trace : List (Event signature))
    (settled : Prop) : Prop where
  whole : trace = [⟨.sleep pause, ()⟩].intercalate (entries.map events)
  begun : entries ≠ []
  onward : ∀ early entry late, entries = early ++ entry :: late → (late ≠ [] ↔ goesOn entry)
  verdict : settled ↔ ∃ early entry late, entries = early ++ entry :: late ∧ settles entry ∧
    ∀ other ∈ early, goesOn other

theorem PollLog.last (ends : ¬ goesOn entry) (verdict : settled ↔ settles entry) :
    PollLog pause events goesOn settles [entry] (events entry) settled where
  whole := List.intercalate_singleton.symm
  begun := List.cons_ne_nil _ _
  onward early other late split := by
    rcases List.cons_eq_append_iff.1 split with ⟨rfl, same⟩ | ⟨_, _, same⟩
    · obtain ⟨rfl, rfl⟩ := List.cons.inj same
      exact iff_of_false (fun more => more rfl) ends
    · simp at same
  verdict := by
    refine verdict.trans ?_
    constructor
    · intro settles
      exact ⟨[], entry, [], rfl, settles, by simp⟩
    · intro found
      obtain ⟨early, other, late, split, settles, _⟩ := found
      obtain ⟨rfl, rfl, rfl⟩ : early = [] ∧ other = entry ∧ late = [] := by
        cases early <;> simp_all
      exact settles

theorem PollLog.next (goes : goesOn entry) (unsettled : ¬ settles entry)
    (log : PollLog pause events goesOn settles entries trace settled) :
    PollLog pause events goesOn settles (entry :: entries)
      (events entry ++ ⟨.sleep pause, ()⟩ :: trace) settled where
  whole := by
    have more : entries.map events ≠ [] := fun none => log.begun (List.map_eq_nil_iff.1 none)
    rw [List.map_cons, List.intercalate_cons_of_ne_nil more, ← log.whole, List.append_assoc]
    rfl
  begun := List.cons_ne_nil _ _
  onward early other late split := by
    rcases List.cons_eq_append_iff.1 split with ⟨rfl, same⟩ | ⟨rest, rfl, same⟩
    · obtain ⟨rfl, rfl⟩ := List.cons.inj same
      exact iff_of_true log.begun goes
    · exact log.onward rest other late same
  verdict := by
    refine log.verdict.trans ?_
    constructor
    · intro found
      obtain ⟨early, other, late, rfl, settles, all⟩ := found
      exact ⟨entry :: early, other, late, rfl, settles, List.forall_mem_cons.2 ⟨goes, all⟩⟩
    · intro found
      obtain ⟨early, other, late, split, settles, all⟩ := found
      rcases List.cons_eq_append_iff.1 split with ⟨rfl, same⟩ | ⟨rest, rfl, same⟩
      · obtain ⟨rfl, rfl⟩ := List.cons.inj same
        exact absurd settles unsettled
      · exact ⟨rest, other, late, same, settles, (List.forall_mem_cons.1 all).2⟩

end Log

end DeploymentLifecycle.Lifecycle
