import DeploymentLifecycle.Proofs.Lifecycle.Effects
import DeploymentLifecycle.Proofs.State.Released

namespace DeploymentLifecycle

def Record.asset {kind : Kind} (record : Record kind) : Lifecycle.Asset :=
  ⟨kind.resource, record.cid⟩

def Document.unusedAssets (document : Document) : List Lifecycle.Asset :=
  (document.inventory .disk).unused.map (·.asset) ++
    (document.inventory .stemcell).unused.map (·.asset)

theorem Document.unusedAssets_deleted {document : Document}
    (resolves : ∀ kind, (document.inventory kind).Resolves) :
    document.deleted.unusedAssets = document.unusedAssets := by
  have same : ∀ kind, (document.deleted.inventory kind).unused = (document.inventory kind).unused :=
    fun kind => by rw [inventory_deleted, (resolves kind).unused_dropCurrent]
  rw [unusedAssets, same, same, unusedAssets]

namespace Lifecycle

/-! What a deletion and a cleanup make of the stored document, and what the provider has agreed to
when they succeed. However a deletion ends, the handles that are left are those of a lookup in the
document that is left. -/

section Release

variable {kind : Kind} {record : Record kind} {document : Document} {agreed : List Asset}

/-- The moment at which the current record of a kind, if there is one, has been released. -/
def released (kind : Kind) (document : Document) (agreed : List Asset) : Moment :=
  ⟨some (document.dropCurrent kind),
    agreed ++ ((document.inventory kind).currentRecord?.map (·.asset)).toList⟩

theorem released_of_none (absent : (document.inventory kind).currentRecord? = none) :
    released kind document agreed = ⟨some document, agreed⟩ := by
  rw [released, Document.dropCurrent, Inventory.dropCurrent_of_none absent, absent,
    Document.withInventory_inventory]
  simp

theorem release_current {label : String}
    (current : (document.inventory kind).currentRecord? = some record) :
    (release label record).run.Keeps freely ⟨some document, agreed⟩ (Prog.ByResult
      (fun _ after => after = released kind document agreed)
      fun _ after => after.stored = some document) := by
  apply release_keeps trivial
  · exact fun _ => rfl
  · exact fun _ => rfl
  · change _ = _
    rw [released, Document.dropCurrent, Inventory.dropCurrent_of_some current, current]
    rfl

theorem releaseCurrent_current
    (current : (document.inventory kind).currentRecord? = some record) :
    (releaseCurrent record).run.Keeps freely ⟨some document, agreed⟩ (Prog.ByResult
      (fun _ after => after = released kind document agreed)
      fun _ after => after.stored = some document) := by
  apply releaseCurrent_keeps
  · exact fun _ => rfl
  · intro found finds stale
    cases finds with
    | stored => exact absurd rfl (stale record current)
  · intro label found other finds isCurrent _
    cases finds with
    | stored =>
        obtain rfl := Option.some.inj (current.symm.trans isCurrent)
        exact release_current current

end Release

namespace Deployment

variable {settings : Settings} {document : Document} {agreed : List Asset}

def assets (deployment : Deployment) : List Asset :=
  (deployment.vmInstance.map fun target => ⟨.vm, target.vm⟩).toList ++
    (deployment.disk.map (·.asset)).toList ++ (deployment.stemcell.map (·.asset)).toList

theorem ofDocument_withoutVm : ofDocument settings document.withoutVm =
    { ofDocument settings document with vmInstance := none } := rfl

theorem ofDocument_dropDisk : ofDocument settings (document.dropCurrent .disk) =
    { ofDocument settings document with disk := none } := by
  have dropped : ((document.dropCurrent .disk).inventory .disk).currentRecord? = none :=
    Inventory.currentRecord?_dropCurrent
  rw [ofDocument, dropped]
  rfl

theorem ofDocument_dropStemcell : ofDocument settings (document.dropCurrent .stemcell) =
    { ofDocument settings document with stemcell := none } := by
  have dropped : ((document.dropCurrent .stemcell).inventory .stemcell).currentRecord? = none :=
    Inventory.currentRecord?_dropCurrent
  rw [ofDocument, dropped]
  rfl

theorem ofDocument_deleted : ofDocument settings document.deleted = {} := by
  rw [Document.deleted, ofDocument_dropStemcell, ofDocument_dropDisk, ofDocument_withoutVm]

theorem ofDocument_cleaned :
    ofDocument settings document.cleaned = ofDocument settings document := by
  rw [ofDocument, Document.inventory_cleaned, Document.inventory_cleaned,
    Inventory.currentRecord?_dropUnused, Inventory.currentRecord?_dropUnused]
  rfl

/-- The handles of a deployment that was deleted in part are those that a lookup gives in the
document that is left. -/
def InStep (settings : Settings) (deployment : Deployment) (stored : Option Document) : Prop :=
  ∃ document, stored = some document ∧ deployment = ofDocument settings document

theorem delete_ofDocument {skipDrain : Bool} :
    ((ofDocument settings document).delete settings skipDrain).Keeps freely
      ⟨some document, agreed⟩ fun (left, result) after => InStep settings left after.stored ∧
        (result = .ok () →
          after = ⟨some document.deleted, agreed ++ (ofDocument settings document).assets⟩) := by
  let deployment := ofDocument settings document
  let first := document.withoutVm
  let second := first.dropCurrent .disk
  let vmGone : Moment := ⟨some first,
    agreed ++ (deployment.vmInstance.map fun target => ⟨.vm, target.vm⟩).toList⟩
  let diskGone := released .disk first vmGone.agreed
  let allGone := released .stemcell second diskGone.agreed
  have ends : allGone = ⟨some document.deleted, agreed ++ deployment.assets⟩ := by
    rw [assets, ← List.append_assoc, ← List.append_assoc]
    rfl
  have nothingLeft : InStep settings {} allGone.stored := ⟨_, rfl, ofDocument_deleted.symm⟩
  apply delete_keeps (· = vmGone) (· = diskGone)
  · intro absent
    have noVm : document.currentVm = none := Option.map_eq_none_iff.1 absent
    simp [vmGone, first, deployment, absent, Document.withoutVm_of_none noVm]
  · intro target held
    have kept : InStep settings deployment (some document) := ⟨document, rfl, rfl⟩
    refine Instance.delete_keeps trivial (fun _ => ⟨kept, nofun⟩) (fun _ => ⟨kept, nofun⟩) ?_
    intro found finds
    cases finds with
    | stored =>
        change _ = vmGone
        simp [vmGone, deployment, held]
        rfl
  · intro now reached absent
    have noDisk : (first.inventory .disk).currentRecord? = none := absent
    exact reached.trans (released_of_none noDisk).symm
  · intro now record reached held
    subst reached
    have isCurrent : (first.inventory .disk).currentRecord? = some record := held
    apply (releaseCurrent_current isCurrent).byResult
    · exact fun _ _ same => same
    · exact fun _ _ kept => ⟨⟨_, kept, ofDocument_withoutVm.symm⟩, nofun⟩
  · intro now reached absent
    have noStemcell : (second.inventory .stemcell).currentRecord? = none := absent
    obtain rfl : now = allGone := reached.trans (released_of_none noStemcell).symm
    exact ⟨nothingLeft, fun _ => ends⟩
  · intro now record reached held
    subst reached
    have isCurrent : (second.inventory .stemcell).currentRecord? = some record := held
    apply (releaseCurrent_current isCurrent).byResult
    · intro _ after same
      obtain rfl : after = allGone := same
      exact ⟨nothingLeft, fun _ => ends⟩
    · intro _ after kept
      have left : { stemcell := deployment.stemcell } = ofDocument settings second := by
        rw [ofDocument_dropDisk, ofDocument_withoutVm]
      exact ⟨⟨_, kept, left⟩, nofun⟩

end Deployment

section Cleanup

variable {kind : Kind} {document : Document} {agreed : List Asset}

/-- Whatever is left to release, releasing it comes to the same end. -/
theorem releaseUnused_ends : (releaseUnused kind).run.Keeps freely ⟨some document, agreed⟩
    fun result after => result = .ok () → after = ⟨some (document.dropUnused kind),
      agreed ++ (document.inventory kind).unused.map (·.asset)⟩ := by
  let inventory := document.inventory kind
  have failed : ∀ {error : LifecycleError} {ends : Prop}, Except.error error = .ok () → ends := by
    intro error ends same
    cases same
  rw [releaseUnused, ExceptT.run_bind, Prog.keeps_bind]
  refine keeps_stored (Records.unused_keeps (fun _ => failed) fun found finds => ?_)
  cases finds with
  | stored =>
      refine Prog.keeps_forM (fun rest now => ∃ held,
        now.stored = some (document.withInventory held) ∧
        held.eraseAll rest = inventory.dropUnused ∧
        now.agreed ++ rest.map (·.asset) = agreed ++ inventory.unused.map (·.asset))
        ⟨inventory, by simp [inventory], Inventory.eraseAll_unused, rfl⟩ ?_ ?_
      · intro record rest now reached
        obtain ⟨stored, told⟩ := now
        obtain ⟨held, rfl, left, order⟩ := reached
        apply release_keeps trivial
        · exact fun _ => failed
        · exact fun _ => failed
        · rw [Document.inventory_withInventory, Document.withInventory_withInventory]
          rw [List.map_cons, List.append_cons] at order
          exact ⟨held.erase record.id, rfl, left, order⟩
      · intro now reached _
        obtain ⟨stored, told⟩ := now
        obtain ⟨held, rfl, rfl, order⟩ := reached
        rw [List.map_nil, List.append_nil] at order
        exact congrArg (Moment.mk (some (document.dropUnused kind))) order

theorem cleanup_ends : cleanup.run.Keeps freely ⟨some document, agreed⟩
    fun result after => result = .ok () →
      after = ⟨some document.cleaned, agreed ++ document.unusedAssets⟩ := by
  refine releaseUnused_ends.exceptBind (fun _ now disks => ?_) fun _ _ _ => nofun
  rw [disks rfl, Document.unusedAssets, ← List.append_assoc]
  exact releaseUnused_ends

end Cleanup

end Lifecycle

end DeploymentLifecycle
