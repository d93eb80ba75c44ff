import DeploymentLifecycle.Proofs.Lifecycle.Convergence
import DeploymentLifecycle.Proofs.Lifecycle.Teardown

namespace DeploymentLifecycle

/-! A deletion and a cleanup release together all that is recorded, whichever of them is first. -/

namespace Document

open Lifecycle (Asset Deployment Settings)

variable {document : Document}

def vmAssets (document : Document) : List Asset :=
  (document.currentVm.map fun vm => ⟨.vm, vm⟩).toList

def assets (document : Document) : List Asset :=
  document.vmAssets ++ ((document.inventory .disk).records.map (·.asset) ++
    (document.inventory .stemcell).records.map (·.asset))

theorem records_assets_perm {kind : Kind} {inventory : Inventory kind}
    (ids : (inventory.records.map (·.id)).Nodup) :
    ((inventory.currentRecord?.map (·.asset)).toList ++ inventory.unused.map (·.asset)).Perm
      (inventory.records.map (·.asset)) := by
  have perm := (Inventory.records_perm ids).map (·.asset)
  rw [List.map_append] at perm
  cases found : inventory.currentRecord? with
  | none => simpa [found] using perm
  | some record => simpa [found] using perm

theorem assets_perm (settings : Settings) (distinct : document.Distinct) :
    ((Deployment.ofDocument settings document).assets ++ document.unusedAssets).Perm
      document.assets := by
  have disks := records_assets_perm (distinct .disk).ids
  have stemcells := records_assets_perm (distinct .stemcell).ids
  have vm : ((Deployment.ofDocument settings document).vmInstance.map
      fun target => (⟨.vm, target.vm⟩ : Asset)).toList = document.vmAssets := by
    rw [vmAssets, Deployment.ofDocument, Option.map_map]
    rfl
  rw [Deployment.assets, vm, unusedAssets, List.append_assoc, List.append_assoc, assets]
  refine List.Perm.append_left _ ?_
  refine List.Perm.trans ?_ (disks.append stemcells)
  rw [List.append_assoc]
  exact List.Perm.append_left _ (List.perm_append_comm_assoc _ _ _)

theorem assets_nodup (distinct : document.Distinct) : document.assets.Nodup := by
  have records : ∀ kind, ((document.inventory kind).records.map (·.asset)).Nodup := by
    intro kind
    have cids := (distinct kind).cids.map (f := fun cid => (⟨kind.resource, cid⟩ : Asset)) (by
      intro one other same
      cases same
      rfl)
    rwa [List.map_map] at cids
  have ofKind : ∀ kind, ∀ asset ∈ (document.inventory kind).records.map (·.asset),
      asset.resource = kind.resource := by
    intro kind asset member
    obtain ⟨record, _, rfl⟩ := List.mem_map.1 member
    rfl
  have kinds : List.Disjoint ((document.inventory .disk).records.map (·.asset))
      ((document.inventory .stemcell).records.map (·.asset)) := by
    intro asset disk stemcell
    cases (ofKind .disk asset disk).symm.trans (ofKind .stemcell asset stemcell)
  have vm : document.vmAssets.Nodup := by
    rw [vmAssets]
    cases document.currentVm <;> simp
  refine vm.append ((records .disk).append (records .stemcell) kinds) ?_
  intro asset isVm recorded
  have vmOnly : asset.resource = .vm := by
    rw [vmAssets, Option.mem_toList, Option.map_eq_some_iff] at isVm
    obtain ⟨vm, _, rfl⟩ := isVm
    rfl
  rcases List.mem_append.1 recorded with disk | stemcell
  · cases vmOnly.symm.trans (ofKind .disk asset disk)
  · cases vmOnly.symm.trans (ofKind .stemcell asset stemcell)

end Document

namespace Lifecycle

open Request

variable {settings : Settings} {skipDrain : Bool} {document : Document} {agreed : List Asset}
  {trace : List (Event signature)} {α β : Type}

/-- What is current and what is unused can be released in either order. -/
inductive Order where
  | deletionFirst
  | cleanupFirst

def releaseAll (settings : Settings) (skipDrain : Bool) : Order → Program Unit
  | .deletionFirst => do
    Deployment.deleteCurrent settings skipDrain
    cleanup
  | .cleanupFirst => do
    cleanup
    Deployment.deleteCurrent settings skipDrain

theorem Deployment.deleteCurrent_ends :
    (deleteCurrent settings skipDrain).run.Keeps freely ⟨some document, agreed⟩
      fun result after => result = .ok () →
        after = ⟨some document.deleted, agreed ++ (ofDocument settings document).assets⟩ := by
  rw [deleteCurrent, ExceptT.run_bind, Prog.keeps_bind]
  refine current?_keeps (fun _ => nofun) (fun _ _ _ => nofun) fun found finds => ?_
  cases finds with
  | stored =>
      by_cases empty : (ofDocument settings document).isEmpty
      · rw [if_pos empty]
        have deleting : ((ofDocument settings document).delete settings skipDrain).Keeps
          freely ⟨some document, agreed⟩ _ := delete_ofDocument
        -- There is nothing to delete, so a deletion ends where it starts.
        rw [eq_empty_of_isEmpty empty] at deleting ⊢
        exact deleting.2
      · rw [if_neg empty]
        refine Prog.keeps_bind.2 (delete_ofDocument.weaken fun outcome after ends => ?_)
        exact ends.2

theorem releaseAll_stops (order : Order) :
    StopsAtFailure (releaseAll settings skipDrain order) := by
  have deletion := Deployment.deleteCurrent_stops settings skipDrain
  cases order with
  | deletionFirst => exact stops_bind deletion fun _ => cleanup_stops
  | cleanupFirst => exact stops_bind cleanup_stops fun _ => deletion

theorem releaseAll_ends (sound : document.Sound) (order : Order) :
    (releaseAll settings skipDrain order).run.Keeps freely ⟨some document, []⟩
      fun result after => result = .ok () →
        after.stored = some document.blank ∧ after.agreed.Perm document.assets := by
  have perm := document.assets_perm settings sound.distinct
  cases order with
  | deletionFirst =>
      apply Deployment.deleteCurrent_ends.exceptBind ?_ fun _ _ _ => nofun
      intro _ now deleted
      rw [deleted rfl, List.nil_append]
      refine cleanup_ends.weaken fun result after ends success => ?_
      rw [ends success, Document.cleaned_deleted sound.resolves,
        Document.unusedAssets_deleted sound.resolves]
      exact ⟨rfl, perm⟩
  | cleanupFirst =>
      apply cleanup_ends.exceptBind ?_ fun _ _ _ => nofun
      intro _ now cleaned
      rw [cleaned rfl, List.nil_append]
      refine Deployment.deleteCurrent_ends.weaken fun result after ends success => ?_
      rw [ends success, Document.deleted_cleaned sound.resolves, Deployment.ofDocument_cleaned]
      exact ⟨rfl, List.perm_append_comm.trans perm⟩

/-- Until a ping is answered, an agent gets nothing but pings. -/
def PingsFirst (program : Program α) : Prop :=
  ∀ trace result, program.run.Yields trace result → (∀ event ∈ trace, ¬ IsAnsweredPing event) →
    ∀ event ∈ trace, IsAgent event.request → IsPing event.request

section PingsFirst

theorem pingsFirst_of_asks {program : Program α}
    (asks : program.run.Asks fun request : Request => ¬ request.IsAgent) : PingsFirst program :=
  fun _ _ run _ event member agent => absurd agent (asks.trace run event member)

theorem pingsFirst_bind {program : Program α} {next : α → Program β} (first : PingsFirst program)
    (rest : ∀ value, PingsFirst (next value)) : PingsFirst (program >>= next) := by
  intro trace result run unanswered
  rcases Prog.yields_exceptBind.1 run with
    ⟨error, rfl, failing⟩ | ⟨value, early, late, rfl, start, finish⟩
  · exact first trace _ failing unanswered
  · rw [List.forall_mem_append] at unanswered ⊢
    exact ⟨first early _ start unanswered.1, rest value late result finish unanswered.2⟩

theorem Deployment.deleteCurrent_pingsFirst :
    PingsFirst (deleteCurrent settings skipDrain) := by
  refine pingsFirst_bind (pingsFirst_of_asks (current?_asks (fun _ => id) settings)) fun found => ?_
  cases found with
  | none => exact pingsFirst_of_asks trivial
  | some deployment =>
      intro trace result run
      obtain ⟨⟨left, outcome⟩, deleting, _, rfl, within, rfl, rfl⟩ := Prog.yields_bind.1 run
      rw [List.append_nil]
      exact (delete_vmOrder within).unanswered

theorem releaseAll_pingsFirst (order : Order) :
    PingsFirst (releaseAll settings skipDrain order) := by
  have deletion : PingsFirst (Deployment.deleteCurrent settings skipDrain) :=
    Deployment.deleteCurrent_pingsFirst
  have cleaning : PingsFirst cleanup := by
    refine pingsFirst_of_asks (cleanup_asks ?_ (fun _ => id) fun kind cid => id)
    exact fun request quiet => (apart_of_quiet request quiet).1
  cases order with
  | deletionFirst => exact pingsFirst_bind deletion fun _ => cleaning
  | cleanupFirst => exact pingsFirst_bind cleaning fun _ => deletion

end PingsFirst

/-- An agent answers no ping at all, or does whatever it is asked for. -/
def Obliging (trace : List (Event signature)) : Prop :=
  (∀ event ∈ trace, ¬ IsAnsweredPing event) ∨
    ∀ event ∈ trace, IsAgent event.request → ¬ Fails event

namespace Strategy

variable {strategy : Strategy}

def AgentObliges (strategy : Strategy) : Prop :=
  (∀ past limit, ¬ IsAnsweredPing ⟨.ping limit, strategy past (.ping limit)⟩) ∨
    ∀ past request, IsAgent request → ¬ Fails ⟨request, strategy past request⟩

theorem obliging {stored after : Option Document} {past now : List (Event signature)}
    (obliges : strategy.AgentObliges)
    (along : strategy.conduct.Along (stored, past) trace (after, now)) : Obliging trace := by
  rcases obliges with silent | serves
  · refine .inl (forall_answers (fun _ _ _ => id) ?_ along)
    intro past request _ answered
    cases request with
    | ping limit => exact silent past limit answered
    | _ => exact answered
  · refine .inr (forall_answers (fun _ _ _ agent => agent.elim) ?_ along)
    exact fun past request _ agent => serves past request agent

end Strategy

/-- When store and provider serve and the agent does not object, whatever is recorded is deleted
once, in either order, and nothing else is. The clock has a reading for each deadline. -/
theorem everything_released_in_either_order (sound : document.Sound) (settings : Settings)
    (skipDrain : Bool) (order : Order) :
    (∀ strategy : Strategy, strategy.ProviderServes → strategy.AgentObliges →
      ∃ trace result after past, (releaseAll settings skipDrain order).run.Yields trace result ∧
        strategy.conduct.Along (some document, []) trace (after, past) ∧
        surroundings.Along (some document) trace after ∧ Serving trace ∧ Obliging trace) ∧
    (∀ trace result after, (releaseAll settings skipDrain order).run.Yields trace result →
      surroundings.Along (some document) trace after → Serving trace → Obliging trace →
        result = .ok () ∧ after = some document.blank ∧
          (deletions trace).Perm document.assets ∧ (deletions trace).Nodup) ∧
    document.blank.isEmpty ∧ document.blank.SameIdentity document := by
  refine ⟨?_, ?_, rfl, rfl, rfl⟩
  · intro strategy serves obliges
    obtain ⟨trace, result, after, past, run, along⟩ :=
      strategy.exists_run (releaseAll settings skipDrain order).run (some document)
    exact ⟨trace, result, after, past, run, along, Strategy.along_surroundings along,
      Strategy.serving serves along, Strategy.obliging obliges along⟩
  · intro trace result after run along serving obliging
    have fine : ∀ event ∈ trace, ¬ Fails event := by
      rcases obliging with unanswered | obeyed
      · exact serving.fine_of_pings (releaseAll_pingsFirst order trace result run unanswered)
      · exact fun event member fails => obeyed event member (serving event member fails) fails
    obtain ⟨⟨⟩, rfl⟩ := ok_of_isOk (((releaseAll_stops order).success_iff run).2 fine)
    obtain ⟨ends, perm⟩ := ends_of_keeps (releaseAll_ends sound order) run along rfl
    rw [← deletions_eq_agreements serving] at perm
    exact ⟨rfl, ends, perm, perm.nodup_iff.2 (Document.assets_nodup sound.distinct)⟩

theorem vm_and_disks_released : ∃ (document : Document) (trace : List (Event signature)),
    (releaseAll {} false .cleanupFirst).run.Yields trace (.ok ()) ∧
    surroundings.Along (some document) trace (some document.blank) ∧
    document.assets = [⟨.vm, ⟨"vm-1"⟩⟩, ⟨.disk, ⟨"disk-1"⟩⟩, ⟨.disk, ⟨"disk-2"⟩⟩] ∧
    (deletions trace).Perm document.assets := by
  let unused : Record .disk := ⟨⟨"id-1"⟩, ⟨"disk-1"⟩, {}⟩
  let current : Record .disk := ⟨⟨"id-2"⟩, ⟨"disk-2"⟩, {}⟩
  let document : Document :=
    { currentVm := some ⟨"vm-1"⟩, disks := ⟨some ⟨"id-2"⟩, [unused, current]⟩ }
  let cleaned : Document := { document with disks := ⟨some ⟨"id-2"⟩, [current]⟩ }
  let vmless : Document := { cleaned with currentVm := none }
  let stage (label : String) (resource : Resource) (cid : Cid resource)
      (before after : Document) : List (Event signature) :=
    [⟨.stageBegun label, ()⟩, ⟨.now, .zero⟩, ⟨.delete resource cid, .ok .deleted⟩,
      ⟨.store .load, .ok before⟩, ⟨.store (.save after), .ok ()⟩, ⟨.now, .zero⟩,
      ⟨.stageEnded label .done .zero, ()⟩]
  let cleaning : List (Event signature) := ⟨.store .load, .ok document⟩ ::
    stage "Deleting unused disk 'disk-1'" .disk ⟨"disk-1"⟩ document cleaned ++
      [⟨.store .load, .ok cleaned⟩]
  let deleting : List (Event signature) :=
    lookingAt cleaned ++ ⟨.hasVm ⟨"vm-1"⟩, .ok false⟩ ::
      stage "Deleting VM 'vm-1'" .vm ⟨"vm-1"⟩ cleaned vmless ++ ⟨.store .load, .ok vmless⟩ ::
        stage "Deleting disk 'disk-2'" .disk ⟨"disk-2"⟩ vmless document.blank
  have sound : document.Sound := by
    constructor
    · intro kind
      cases kind <;> exact ⟨by decide, by decide⟩
    · intro kind
      cases kind with
      | disk =>
          intro id pointer
          cases pointer
          rfl
      | stemcell => nofun
  have run : (releaseAll {} false .cleanupFirst).run.Yields (cleaning ++ deleting) (.ok ()) := by
    repeat refine ⟨_, _, rfl, ?_⟩
    exact ⟨rfl, rfl⟩
  have staged : ∀ label resource cid before after, surroundings.Along (some before)
      (stage label resource cid before after) (some after) :=
    fun _ _ _ _ _ => ⟨_, rfl, _, rfl, _, rfl, _, .loaded _, _, .saved _ _, _, rfl, _, rfl, rfl⟩
  have cleans : surroundings.Along (some document) cleaning (some cleaned) :=
    Conduct.along_append.2 ⟨some cleaned, ⟨_, .loaded _, staged ..⟩, _, .loaded _, rfl⟩
  have looks : surroundings.Along (some cleaned) (lookingAt cleaned) (some cleaned) :=
    along_lookingAt
  have deletes : surroundings.Along (some cleaned) deleting (some document.blank) :=
    Conduct.along_append.2 ⟨some vmless, Conduct.along_append.2 ⟨_, looks, _, rfl, staged ..⟩,
      _, .loaded _, staged ..⟩
  have along := Conduct.along_append.2 ⟨_, cleans, deletes⟩
  have serving : Serving (cleaning ++ deleting) := by
    repeat refine List.forall_mem_cons.2 ⟨nofun, ?_⟩
    exact List.forall_mem_nil _
  have unanswered : ∀ event ∈ cleaning ++ deleting, ¬ IsAnsweredPing event := by
    repeat refine List.forall_mem_cons.2 ⟨id, ?_⟩
    exact List.forall_mem_nil _
  have released := (everything_released_in_either_order sound {} false .cleanupFirst).2.1
  obtain ⟨_, _, perm, _⟩ := released _ _ _ run along serving (.inl unanswered)
  exact ⟨document, cleaning ++ deleting, run, along, rfl, perm⟩

/-- Deletions are answered, the store serves and no agent objects. But the provider cannot say
whether it knows the VM, and so everything is left. -/
theorem unanswered_vm_check_releases_nothing : ∃ (document : Document)
    (trace : List (Event signature)) (error : CloudError),
    document.Sound ∧ surroundings.Along (some document) trace (some document) ∧
    (∀ event ∈ trace, Fails event → IsVmCheck event.request) ∧ Obliging trace ∧
    (releaseAll {} false .deletionFirst).run.Yields trace (.error (.cloud error)) ∧
    deletions trace = [] ∧ document.assets = [⟨.vm, ⟨"vm-1"⟩⟩] ∧ document.isEmpty = false := by
  let document : Document := { currentVm := some ⟨"vm-1"⟩ }
  let refusal : CloudError := .provider "has_vm" "Bosh::Clouds::CloudError" "boom" false
  let trace : List (Event signature) :=
    lookingAt document ++ [⟨.hasVm ⟨"vm-1"⟩, .error refusal⟩]
  have sound : document.Sound := by
    constructor
    · intro kind
      cases kind <;> exact ⟨by decide, by decide⟩
    · intro kind
      cases kind <;> nofun
  have looks : surroundings.Along (some document) (lookingAt document) (some document) :=
    along_lookingAt
  have along : surroundings.Along (some document) trace (some document) :=
    Conduct.along_append.2 ⟨_, looks, _, rfl, rfl⟩
  have onlyCheck : ∀ event ∈ trace, Fails event → IsVmCheck event.request := by
    intro event member fails
    rcases List.mem_append.1 member with looked | checked
    · obtain rfl := (List.mem_replicate.1 looked).2
      exact fails.elim
    · obtain rfl := List.mem_singleton.1 checked
      trivial
  have unanswered : ∀ event ∈ trace, ¬ IsAnsweredPing event := by
    repeat refine List.forall_mem_cons.2 ⟨id, ?_⟩
    exact List.forall_mem_nil _
  have run : (releaseAll {} false .deletionFirst).run.Yields trace
      (.error (.cloud refusal)) := by
    repeat refine ⟨_, _, rfl, ?_⟩
    exact ⟨rfl, rfl⟩
  exact ⟨document, trace, refusal, sound, along, onlyCheck, .inl unanswered, run, rfl, rfl, rfl⟩

end Lifecycle

end DeploymentLifecycle
