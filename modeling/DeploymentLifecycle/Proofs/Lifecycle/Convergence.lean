import DeploymentLifecycle.Proofs.Lifecycle.Progress
import DeploymentLifecycle.Proofs.Lifecycle.Provider

namespace DeploymentLifecycle.Lifecycle

/-! Deletions that are interrupted and taken up again come to the same end as one that is not. -/

/-- One attempt to delete a deployment, with the handles that were kept from earlier ones: by a
fresh lookup, which may find that nothing is left, or by handles that were kept. -/
inductive Attempt (settings : Settings) (before : World) :
    List Deployment → Except LifecycleError Unit → World → List Deployment → Prop
  | lookUpFailed {kept : List Deployment} {trace : List (Event signature)} {error : LifecycleError}
      {after : World}
      (looking : (Deployment.current? settings).run.Yields trace (.error error))
      (along : World.conduct.Along before trace after) :
      Attempt settings before kept (.error error) after kept
  | nothingFound {kept : List Deployment} {trace : List (Event signature)} {after : World}
      (looking : (Deployment.current? settings).run.Yields trace (.ok none))
      (along : World.conduct.Along before trace after) :
      Attempt settings before kept (.ok ()) after kept
  | afresh {kept : List Deployment} {early late : List (Event signature)}
      {deployment left : Deployment} {result : Except LifecycleError Unit} {middle after : World}
      (looking : (Deployment.current? settings).run.Yields early (.ok (some deployment)))
      (found : World.conduct.Along before early middle) (skipDrain : Bool)
      (deleting : (deployment.delete settings skipDrain).Yields late (left, result))
      (along : World.conduct.Along middle late after) :
      Attempt settings before kept result after (left :: kept)
  | again {first rest : List Deployment} {trace : List (Event signature)}
      {deployment left : Deployment} {result : Except LifecycleError Unit} {after : World}
      (skipDrain : Bool)
      (deleting : (deployment.delete settings skipDrain).Yields trace (left, result))
      (along : World.conduct.Along before trace after) :
      Attempt settings before (first ++ deployment :: rest) result after (first ++ left :: rest)

/-- A sequence of attempts, with the result of the last one. -/
inductive Attempts (initial : World) :
    World → List Deployment → Option (Except LifecycleError Unit) → Prop
  | start : Attempts initial initial [] none
  | next {before after : World} {kept more : List Deployment}
      {last : Option (Except LifecycleError Unit)} {result : Except LifecycleError Unit}
      (earlier : Attempts initial before kept last) (settings : Settings)
      (attempt : Attempt settings before kept result after more) :
      Attempts initial after more (some result)

/-- What the attempts have in common with the end they are to come to: what is gone from the
document is not at the provider, and all else is as it was. -/
structure Converging (initial : Document) (live : Set Asset) (gone : List Resource)
    (world : World) : Prop where
  underway : ∃ agreed, Underway initial gone ⟨world.stored, agreed⟩ ∧
    ∀ asset ∈ agreed, asset ∉ world.live
  others : ∀ asset, initial.currentCid? asset.resource ≠ some asset.cid →
    (asset ∈ world.live ↔ asset ∈ live)

section Attempts

variable {initial : Document} {live : Set Asset} {gone : List Resource} {world after : World}
  {α : Type}

theorem Converging.start : Converging initial live [] ⟨some initial, live⟩ where
  underway := ⟨[], ⟨rfl, by simp⟩, by simp⟩
  others _ _ := Iff.rfl

theorem Converging.run {program : Prog signature α} {trace : List (Event signature)} {result : α}
    (converging : Converging initial live gone world) {goal : List Resource → α → Prop}
    (keeps : ∀ agreed, Underway initial gone ⟨world.stored, agreed⟩ →
      program.Keeps (terms (mayDeleteCurrent initial)) ⟨world.stored, agreed⟩
        (Advances initial gone goal))
    (run : program.Yields trace result) (along : World.conduct.Along world trace after) :
    ∃ more, gone ⊆ more ∧ Converging initial live more after ∧ goal more result := by
  obtain ⟨agreed, underway, absent⟩ := converging.underway
  have kept := keeps agreed underway
  have follows := Moment.along_follows (World.along_stored along) agreed
  obtain ⟨more, grown, reached, ends⟩ := kept.ends run follows
  have live := World.along_live along
  have absentAfter : ∀ asset ∈ agreed ++ agreements trace, asset ∉ after.live :=
    fun asset member => gone_along live ((List.mem_append.1 member).imp_left (absent asset))
  refine ⟨more, grown, ⟨⟨agreed ++ agreements trace, reached, absentAfter⟩, ?_⟩, ends⟩
  intro asset other
  have unasked : ∀ event ∈ trace, event.request ≠ .delete asset.resource asset.cid := by
    intro event member asked
    obtain ⟨request, answer⟩ := event
    obtain rfl : request = .delete asset.resource asset.cid := asked
    obtain ⟨now, allowed⟩ := kept.asks_of_mem run follows member
    exact other allowed
  exact (held_along live unasked).trans (converging.others asset other)

/-- What a lookup came to: it failed, or nothing was left, or there are handles of what is left. -/
def Found (initial : Document) (gone : List Resource) :
    Except LifecycleError (Option Deployment) → Prop
  | .ok none => ∀ resource, Cleared initial gone resource
  | .ok (some deployment) => deployment.Covers initial gone
  | .error _ => True

theorem Converging.lookUp {settings : Settings} {trace : List (Event signature)}
    {result : Except LifecycleError (Option Deployment)}
    (converging : Converging initial live gone world)
    (run : (Deployment.current? settings).run.Yields trace result)
    (along : World.conduct.Along world trace after) :
    ∃ more, gone ⊆ more ∧ Converging initial live more after ∧ Found initial more result := by
  apply converging.run _ run along
  intro agreed underway
  apply Deployment.current?_keeps
  · exact fun _ => underway.still trivial
  · intro error document finds
    obtain rfl := underway.finds finds
    exact underway.load.still trivial
  · intro document finds
    obtain rfl := underway.finds finds
    have covers : (Deployment.ofDocument settings (initial.without gone)).Covers initial gone :=
      Deployment.ofDocument_covers
    apply underway.load.still
    by_cases empty : (Deployment.ofDocument settings (initial.without gone)).isEmpty
    · rw [if_pos empty]
      exact covers.cleared_of_isEmpty empty
    · rw [if_neg empty]
      exact covers

theorem Converging.delete {settings : Settings} {deployment left : Deployment} {skipDrain : Bool}
    {trace : List (Event signature)} {result : Except LifecycleError Unit}
    (converging : Converging initial live gone world) (covers : deployment.Covers initial gone)
    (run : (deployment.delete settings skipDrain).Yields trace (left, result))
    (along : World.conduct.Along world trace after) :
    ∃ more, gone ⊆ more ∧ Converging initial live more after ∧
      left.Covers initial more ∧ (result = .ok () → ∀ resource, Cleared initial more resource) :=
  converging.run (fun _ underway => Deployment.delete_advances covers underway) run along

/-- What an attempt preserves: nothing that was gone comes back, and all the handles still cover
what is left. -/
theorem Attempt.advances {settings : Settings} {kept more : List Deployment}
    {result : Except LifecycleError Unit}
    (attempt : Attempt settings world kept result after more)
    (converging : Converging initial live gone world)
    (covers : ∀ deployment ∈ kept, deployment.Covers initial gone) :
    ∃ further, gone ⊆ further ∧ Converging initial live further after ∧
      (∀ deployment ∈ more, deployment.Covers initial further) ∧
      (result = .ok () → ∀ resource, Cleared initial further resource) := by
  have stillCovers : ∀ {further}, gone ⊆ further →
      ∀ deployment ∈ kept, deployment.Covers initial further :=
    fun grown deployment member => (covers deployment member).mono grown
  cases attempt with
  | lookUpFailed looking along =>
      obtain ⟨further, grown, reached, _⟩ := converging.lookUp looking along
      exact ⟨further, grown, reached, stillCovers grown, nofun⟩
  | nothingFound looking along =>
      obtain ⟨further, grown, reached, cleared⟩ := converging.lookUp looking along
      exact ⟨further, grown, reached, stillCovers grown, fun _ => cleared⟩
  | afresh looking found skipDrain deleting along =>
      obtain ⟨middle, grown, seen, found⟩ := converging.lookUp looking found
      obtain ⟨further, also, reached, left, cleared⟩ := seen.delete found deleting along
      have all := List.Subset.trans grown also
      exact ⟨further, all, reached, List.forall_mem_cons.2 ⟨left, stillCovers all⟩, cleared⟩
  | again skipDrain deleting along =>
      have held := (List.forall_mem_cons.1 (List.forall_mem_append.1 covers).2).1
      obtain ⟨further, grown, reached, left, cleared⟩ := converging.delete held deleting along
      refine ⟨further, grown, reached, ?_, cleared⟩
      obtain ⟨before, behind⟩ := List.forall_mem_append.1 (stillCovers grown)
      have others := (List.forall_mem_cons.1 behind).2
      exact List.forall_mem_append.2 ⟨before, List.forall_mem_cons.2 ⟨left, others⟩⟩

theorem Attempts.converging {kept : List Deployment} {last : Option (Except LifecycleError Unit)}
    (attempts : Attempts ⟨some initial, live⟩ world kept last) :
    ∃ gone, Converging initial live gone world ∧
      (∀ deployment ∈ kept, deployment.Covers initial gone) ∧
      (last = some (.ok ()) → ∀ resource, Cleared initial gone resource) := by
  induction attempts with
  | start => exact ⟨[], Converging.start, by simp, nofun⟩
  | next earlier settings attempt ih =>
      obtain ⟨gone, converging, covers, _⟩ := ih
      obtain ⟨further, _, reached, stillCovers, cleared⟩ := attempt.advances converging covers
      exact ⟨further, reached, stillCovers, fun success => cleared (Option.some.inj success)⟩

def Deployment.deleteCurrent (settings : Settings) (skipDrain : Bool) : Program Unit := do
  match ← current? settings with
  | some deployment => ExceptT.mk do return (← deployment.delete settings skipDrain).2
  | none => return ()

theorem Deployment.deleteCurrent_stops (settings : Settings) (skipDrain : Bool) :
    StopsAtFailure (deleteCurrent settings skipDrain) := by
  refine stops_bind (current?_stops settings) fun found => ?_
  cases found with
  | none => rfl
  | some deployment =>
      exact (deployment.delete_stops settings skipDrain).bind (fun _ success => success)
        fun _ failed => failed

theorem Deployment.deleteCurrent_attempt {settings : Settings} {skipDrain : Bool}
    {trace : List (Event signature)} {result : Except LifecycleError Unit}
    (run : (deleteCurrent settings skipDrain).run.Yields trace result)
    (along : World.conduct.Along world trace after) :
    ∃ kept, Attempt settings world [] result after kept := by
  rcases Prog.yields_exceptBind.1 run with
    ⟨error, rfl, failing⟩ | ⟨found, early, late, rfl, looking, rest⟩
  · exact ⟨[], .lookUpFailed failing along⟩
  · obtain ⟨middle, earlier, later⟩ := Conduct.along_append.1 along
    cases found with
    | none =>
        obtain ⟨rfl, rfl⟩ := rest
        exact ⟨[], .nothingFound looking (by simpa using along)⟩
    | some deployment =>
        obtain ⟨⟨left, outcome⟩, deleting, _, rfl, within, rfl, rfl⟩ := Prog.yields_bind.1 rest
        rw [List.append_nil] at later
        exact ⟨[left], .afresh looking earlier skipDrain within later⟩

/-- However often the deletion of a deployment is interrupted and taken up again, by the same
handles or by a fresh lookup: once it succeeds, the document and the provider are as one deletion
without any failure leaves them. The clock has a reading for each deadline. -/
theorem interrupted_deletions_converge {kept : List Deployment}
    (ids : ∀ kind, ((initial.inventory kind).records.map (·.id)).Nodup)
    (resolves : ∀ kind, (initial.inventory kind).Resolves)
    (attempts : Attempts ⟨some initial, live⟩ world kept (some (.ok ()))) :
    -- The document is that of one deletion without a failure, of which there is one.
    (∀ settings skipDrain,
      (∃ trace single, (Deployment.deleteCurrent settings skipDrain).run.Yields trace (.ok ()) ∧
        World.conduct.Along ⟨some initial, live⟩ trace single ∧ ∀ event ∈ trace, ¬ Fails event) ∧
      ∀ trace result single, (Deployment.deleteCurrent settings skipDrain).run.Yields trace result →
        World.conduct.Along ⟨some initial, live⟩ trace single → (∀ event ∈ trace, ¬ Fails event) →
          world.stored = single.stored) ∧
    -- Nothing is current, and only the records that were current are missing.
    world.stored = some initial.tornDown ∧
    (∀ kind, ∀ record ∈ (initial.inventory kind).records,
      record ∈ (initial.tornDown.inventory kind).records ↔
        (initial.inventory kind).currentRecord? ≠ some record) ∧
    -- What was current is not at the provider, and all else is as it was.
    (∀ resource cid, initial.currentCid? resource = some cid → ⟨resource, cid⟩ ∉ world.live) ∧
    ∀ asset, initial.currentCid? asset.resource ≠ some asset.cid →
      (asset ∈ world.live ↔ asset ∈ live) := by
  -- A deletion without a failure is an attempt too, so one argument does for both ends.
  have tornDown : ∀ {world : World} {kept : List Deployment},
      Attempts ⟨some initial, live⟩ world kept (some (.ok ())) →
        world.stored = some initial.tornDown := by
    intro world kept attempts
    obtain ⟨gone, converging, _, cleared⟩ := attempts.converging
    obtain ⟨agreed, underway, _⟩ := converging.underway
    have same := Document.without_eq_tornDown resolves (cleared rfl)
    exact underway.stored.trans (congrArg some same)
  obtain ⟨gone, converging, _, cleared⟩ := attempts.converging
  refine ⟨fun settings skipDrain => ⟨?_, fun trace result single run along fine => ?_⟩,
    tornDown attempts, ?_, ?_, converging.others⟩
  · obtain ⟨trace, result, single, run, success, along, fine⟩ :=
      World.exists_success ⟨some initial, live⟩ (Deployment.deleteCurrent_stops settings skipDrain)
    obtain ⟨⟨⟩, rfl⟩ := ok_of_isOk success
    exact ⟨trace, single, run, along, fine⟩
  · have stops := Deployment.deleteCurrent_stops settings skipDrain
    obtain ⟨⟨⟩, rfl⟩ := ok_of_isOk ((stops.success_iff run).2 fine)
    obtain ⟨_, attempt⟩ := Deployment.deleteCurrent_attempt run along
    rw [tornDown attempts, tornDown (Attempts.start.next settings attempt)]
  · intro kind record member
    rw [Document.inventory_tornDown]
    exact (resolves kind).mem_withoutCurrent (ids kind) member
  · intro resource cid current
    obtain ⟨agreed, underway, absent⟩ := converging.underway
    rcases cleared rfl resource with member | none
    · exact absent _ (underway.agreed resource member cid current)
    · cases none.symm.trans current

end Attempts

/-- A VM is deleted, but the reply is lost; the next attempt by the same handles finds it gone. -/
theorem lost_reply_converges : ∃ world kept error,
    Attempts ⟨some { currentVm := some ⟨"vm-1"⟩ }, {⟨.vm, ⟨"vm-1"⟩⟩}⟩ world kept (some (.ok ())) ∧
    (∃ between left, Attempts ⟨some { currentVm := some ⟨"vm-1"⟩ }, {⟨.vm, ⟨"vm-1"⟩⟩}⟩ between left
      (some (.error error))) ∧
    world.stored = some {} ∧ ⟨.vm, ⟨"vm-1"⟩⟩ ∉ world.live := by
  let initial : Document := { currentVm := some ⟨"vm-1"⟩ }
  let target : Instance := ⟨{}, ⟨"vm-1"⟩⟩
  let live : Set Asset := {⟨.vm, target.vm⟩}
  let waiting := "Waiting for the agent on VM '" ++ target.vm.text ++ "'"
  let deletingVm := "Deleting VM '" ++ target.vm.text ++ "'"
  let lost : CloudError := .timeout "delete_vm" ⟨1⟩
  let looking : List (Event signature) := List.replicate 3 ⟨.store .load, .ok initial⟩
  let unreachable := "agent unreachable after " ++ PingPolicy.standard.timeout.short
  let unknown := "VM '" ++ target.vm.text ++ "' not found"
  let interrupted : List (Event signature) := [⟨.hasVm target.vm, .ok true⟩,
    ⟨.stageBegun waiting, ()⟩, ⟨.now, .zero⟩, ⟨.now, .zero⟩, ⟨.now, .zero⟩,
    ⟨.ping PingPolicy.standard.timeout, .pending⟩, ⟨.now, .zero⟩,
    ⟨.stageEnded waiting (.skipped unreachable) .zero, ()⟩, ⟨.stageBegun deletingVm, ()⟩,
    ⟨.now, .zero⟩, ⟨.delete .vm target.vm, .error lost⟩, ⟨.now, .zero⟩,
    ⟨.stageEnded deletingVm (.failed (.cloud lost)) .zero, ()⟩]
  let resumed : List (Event signature) := [⟨.hasVm target.vm, .ok false⟩,
    ⟨.stageBegun deletingVm, ()⟩, ⟨.now, .zero⟩, ⟨.delete .vm target.vm, .ok .notFound⟩,
    ⟨.store .load, .ok initial⟩, ⟨.store (.save {}), .ok ()⟩, ⟨.now, .zero⟩,
    ⟨.stageEnded deletingVm (.skipped unknown) .zero, ()⟩]
  let between : World := ⟨some initial, live \ {⟨.vm, target.vm⟩}⟩
  let after : World := ⟨some {}, live \ {⟨.vm, target.vm⟩}⟩
  have gone : ⟨.vm, target.vm⟩ ∉ live \ {⟨.vm, target.vm⟩} := by simp
  have looked : (Deployment.current? {}).run.Yields looking
      (.ok (some ⟨some target, none, none⟩)) := by
    repeat refine ⟨_, _, rfl, ?_⟩
    exact ⟨rfl, rfl⟩
  have found : World.conduct.Along ⟨some initial, live⟩ looking ⟨some initial, live⟩ := by
    repeat refine ⟨⟨some initial, live⟩, ⟨.loaded _, .other _ _ _ id⟩, ?_⟩
    rfl
  have failing : (Deployment.delete ⟨some target, none, none⟩ {} true).Yields interrupted
      (⟨some target, none, none⟩, .error (.cloud lost)) := by
    repeat refine ⟨_, _, rfl, ?_⟩
    exact ⟨rfl, rfl⟩
  have lostReply : World.conduct.Along ⟨some initial, live⟩ interrupted between := by
    refine ⟨⟨some initial, live⟩, ⟨rfl, .known _ _ (Set.mem_singleton _)⟩, ?_⟩
    repeat refine ⟨⟨some initial, live⟩, ⟨rfl, .other _ _ _ id⟩, ?_⟩
    refine ⟨between, ⟨rfl, .replyLost _ _ _ _⟩, ?_⟩
    repeat refine ⟨between, ⟨rfl, .other _ _ _ id⟩, ?_⟩
    rfl
  have succeeding : (Deployment.delete ⟨some target, none, none⟩ {} true).Yields resumed
      ({}, .ok ()) := by
    repeat refine ⟨_, _, rfl, ?_⟩
    exact ⟨rfl, rfl⟩
  have confirmed : World.conduct.Along between resumed after := by
    refine ⟨between, ⟨rfl, .unknown _ _ gone⟩, ?_⟩
    repeat refine ⟨between, ⟨rfl, .other _ _ _ id⟩, ?_⟩
    refine ⟨between, ⟨rfl, .notFound _ _ _ gone⟩, between, ⟨.loaded _, .other _ _ _ id⟩, ?_⟩
    refine ⟨after, ⟨.saved _ _, .other _ _ _ id⟩, ?_⟩
    repeat refine ⟨after, ⟨rfl, .other _ _ _ id⟩, ?_⟩
    rfl
  have first : Attempts ⟨some initial, live⟩ between [⟨some target, none, none⟩]
      (some (.error (.cloud lost))) :=
    .next .start {} (.afresh looked found true failing lostReply)
  have again : Attempt {} between ([] ++ [⟨some target, none, none⟩]) (.ok ()) after
      ([] ++ [⟨none, none, none⟩]) :=
    .again true succeeding confirmed
  have second : Attempts ⟨some initial, live⟩ after [{}] (some (.ok ())) := .next first {} again
  have converged := interrupted_deletions_converge
    (fun kind => by cases kind <;> exact List.nodup_nil)
    (fun kind => by cases kind <;> nofun) second
  exact ⟨after, [{}], .cloud lost, second, ⟨between, _, first⟩, converged.2.1,
    converged.2.2.2.1 .vm target.vm rfl⟩

end DeploymentLifecycle.Lifecycle
