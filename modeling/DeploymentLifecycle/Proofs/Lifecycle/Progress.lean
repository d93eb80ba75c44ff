import DeploymentLifecycle.Proofs.Lifecycle.Effects
import DeploymentLifecycle.Proofs.State.TornDown
import Mathlib.Tactic.ByContra

namespace DeploymentLifecycle.Lifecycle

/-! How far the deletion of a deployment has got: what is gone from the document, and which handles
there are of what is left. -/

open Store (Finds)

section Progress

variable {initial : Document} {gone more : List Resource} {moment : Moment}

/-- Nothing is left of what was current of a resource. -/
def Cleared (initial : Document) (gone : List Resource) (resource : Resource) : Prop :=
  resource ∈ gone ∨ initial.currentCid? resource = none

theorem Cleared.mono {resource : Resource} (cleared : Cleared initial gone resource)
    (grown : gone ⊆ more) : Cleared initial more resource :=
  cleared.imp_left fun member => grown member

/-- How far the deletion of a deployment has got. What is gone from the document is something that
the provider has agreed to delete. -/
structure Underway (initial : Document) (gone : List Resource) (moment : Moment) : Prop where
  stored : moment.stored = some (initial.without gone)
  agreed : ∀ resource ∈ gone, ∀ cid, initial.currentCid? resource = some cid →
    ⟨resource, cid⟩ ∈ moment.agreed

/-- What a step of a deletion comes to: nothing that is gone comes back, and the goal is met by what
is gone in the end. -/
def Advances {α : Type} (initial : Document) (gone : List Resource)
    (goal : List Resource → α → Prop) (result : α) (after : Moment) : Prop :=
  ∃ more, gone ⊆ more ∧ Underway initial more after ∧ goal more result

/-- A deletion has got so far that nothing is left of some resources. -/
def HasCleared (initial : Document) (gone done : List Resource) : Moment → Prop :=
  Advances initial gone (fun more _ => ∀ resource ∈ done, Cleared initial more resource) ()

theorem HasCleared.cons {done : List Resource} {resource : Resource}
    (reached : HasCleared initial gone done moment) (cleared : Cleared initial gone resource) :
    HasCleared initial gone (resource :: done) moment := by
  obtain ⟨more, grown, underway, earlier⟩ := reached
  exact ⟨more, grown, underway, List.forall_mem_cons.2 ⟨cleared.mono grown, earlier⟩⟩

theorem forall_cleared (cleared : ∀ resource ∈ [.stemcell, .disk, .vm], Cleared initial gone resource)
    (resource : Resource) : Cleared initial gone resource :=
  cleared resource (by cases resource <;> simp)

namespace Underway

theorem finds {document : Document} (underway : Underway initial gone moment)
    (finds : Finds moment.stored document) : document = initial.without gone := by
  rw [underway.stored] at finds
  cases finds with
  | stored => rfl

theorem load (underway : Underway initial gone moment) :
    Underway initial gone ⟨some (initial.without gone), moment.agreed⟩ :=
  ⟨rfl, underway.agreed⟩

theorem agree {asset : Asset} (underway : Underway initial gone moment) :
    Underway initial gone ⟨moment.stored, moment.agreed ++ [asset]⟩ where
  stored := underway.stored
  agreed resource member cid current :=
    List.mem_append_left _ (underway.agreed resource member cid current)

theorem agreed_cons {resource : Resource} {cid : Cid resource}
    (underway : Underway initial gone moment) (named : initial.currentCid? resource = some cid) :
    ∀ other ∈ resource :: gone, ∀ otherCid, initial.currentCid? other = some otherCid →
      ⟨other, otherCid⟩ ∈ moment.agreed ++ [⟨resource, cid⟩] := by
  intro other member otherCid current
  rcases List.mem_cons.1 member with rfl | earlier
  · obtain rfl := Option.some.inj (named.symm.trans current)
    simp
  · exact List.mem_append_left _ (underway.agreed other earlier otherCid current)

theorem still {α : Type} {goal : List Resource → α → Prop} {result : α}
    (underway : Underway initial gone moment) (met : goal gone result) :
    Advances initial gone goal result moment :=
  ⟨gone, List.Subset.refl _, underway, met⟩

end Underway

end Progress

namespace Deployment

def record? (deployment : Deployment) : (kind : Kind) → Option (Record kind)
  | .disk => deployment.disk
  | .stemcell => deployment.stemcell

/-- The handles of a deployment are of what was current in the beginning, and none is missing of
something that is not gone yet. -/
structure Covers (deployment : Deployment) (initial : Document) (gone : List Resource) : Prop where
  vm : ∀ target, deployment.vmInstance = some target → initial.currentVm = some target.vm
  noVm : deployment.vmInstance = none → Cleared initial gone .vm
  record : ∀ kind record, deployment.record? kind = some record →
    (initial.inventory kind).currentRecord? = some record
  noRecord : ∀ kind, deployment.record? kind = none → Cleared initial gone kind.resource

theorem Covers.mono {deployment : Deployment} {initial : Document} {gone more : List Resource}
    (covers : deployment.Covers initial gone) (grown : gone ⊆ more) :
    deployment.Covers initial more :=
  { covers with
    noVm := fun absent => (covers.noVm absent).mono grown
    noRecord := fun kind absent => (covers.noRecord kind absent).mono grown }

theorem Covers.dropVm {deployment : Deployment} {initial : Document} {gone : List Resource}
    (covers : deployment.Covers initial gone) (cleared : Cleared initial gone .vm) :
    Covers { deployment with vmInstance := none } initial gone where
  vm := nofun
  noVm _ := cleared
  record
    | .disk => covers.record .disk
    | .stemcell => covers.record .stemcell
  noRecord
    | .disk => covers.noRecord .disk
    | .stemcell => covers.noRecord .stemcell

theorem Covers.dropDisk {deployment : Deployment} {initial : Document} {gone : List Resource}
    (covers : deployment.Covers initial gone) (cleared : Cleared initial gone .disk) :
    Covers { deployment with disk := none } initial gone where
  vm := covers.vm
  noVm := covers.noVm
  record
    | .disk => nofun
    | .stemcell => covers.record .stemcell
  noRecord
    | .disk => fun _ => cleared
    | .stemcell => covers.noRecord .stemcell

theorem empty_covers {initial : Document} {gone : List Resource}
    (cleared : ∀ resource, Cleared initial gone resource) : Covers {} initial gone where
  vm := nofun
  noVm _ := cleared .vm
  record kind := by cases kind <;> nofun
  noRecord kind _ := cleared kind.resource

theorem Covers.cleared_of_isEmpty {deployment : Deployment} {initial : Document}
    {gone : List Resource} (covers : deployment.Covers initial gone) (empty : deployment.isEmpty) :
    ∀ resource, Cleared initial gone resource := by
  simp only [isEmpty, Bool.and_eq_true, Option.isNone_iff_eq_none] at empty
  obtain ⟨⟨vm, disk⟩, stemcell⟩ := empty
  intro resource
  cases resource with
  | vm => exact covers.noVm vm
  | disk => exact covers.noRecord .disk disk
  | stemcell => exact covers.noRecord .stemcell stemcell

theorem record?_ofDocument {settings : Settings} {document : Document} {kind : Kind} :
    (ofDocument settings document).record? kind = (document.inventory kind).currentRecord? := by
  cases kind <;> rfl

theorem ofDocument_covers {settings : Settings} {initial : Document} {gone : List Resource} :
    (ofDocument settings (initial.without gone)).Covers initial gone where
  vm target held := by
    obtain ⟨vm, found, rfl⟩ := Option.map_eq_some_iff.1 held
    rw [Document.without] at found
    split at found
    · cases found
    · exact found
  noVm absent := by
    have none : (if .vm ∈ gone then none else initial.currentVm) = none :=
      Option.map_eq_none_iff.1 absent
    by_cases member : .vm ∈ gone
    · exact .inl member
    · rw [if_neg member] at none
      exact .inr none
  record kind record held := by
    rw [record?_ofDocument] at held
    exact (Document.currentRecord?_without held).1
  noRecord kind absent := by
    rw [record?_ofDocument, Document.inventory_without] at absent
    by_cases member : kind.resource ∈ gone
    · exact .inl member
    · rw [if_neg member] at absent
      exact .inr (by rw [Document.currentCid?_resource, absent, Option.map_none])

end Deployment

def mayDeleteCurrent (initial : Document) (_ : Moment) (resource : Resource) (cid : Cid resource) :
    Prop :=
  initial.currentCid? resource = some cid

section Steps

variable {initial : Document} {gone : List Resource} {moment : Moment} {kind : Kind}
  {settings : Settings} {skipDrain : Bool}

theorem Instance.delete_advances {target : Instance} (held : initial.currentVm = some target.vm)
    (underway : Underway initial gone moment) :
    (target.delete settings skipDrain).run.Keeps (terms (mayDeleteCurrent initial)) moment
      (Advances initial gone fun more result => result = .ok () → .vm ∈ more) := by
  have named : initial.currentCid? .vm = some target.vm := held
  apply delete_keeps named
  · exact fun _ => underway.still nofun
  · exact fun _ => underway.agree.still nofun
  · intro document finds
    obtain rfl := underway.finds finds
    have cleared : some { initial.without gone with currentVm := none } =
        some (initial.without (.vm :: gone)) := congrArg some Document.without_vm
    exact ⟨.vm :: gone, List.subset_cons_self _ _, ⟨cleared, underway.agreed_cons named⟩,
      fun _ => List.mem_cons_self⟩

theorem release_advances {label : String} {record : Record kind}
    (isCurrent : ((initial.without gone).inventory kind).currentRecord? = some record)
    (underway : Underway initial gone ⟨some (initial.without gone), moment.agreed⟩) :
    (release label record).run.Keeps (terms (mayDeleteCurrent initial))
      ⟨some (initial.without gone), moment.agreed⟩
      (Advances initial gone fun more result => result = .ok () → kind.resource ∈ more) := by
  obtain ⟨first, left⟩ := Document.currentRecord?_without isCurrent
  have named : initial.currentCid? kind.resource = some record.cid := by
    rw [Document.currentCid?_resource, first, Option.map_some]
  have erased : (initial.without gone).withInventory
      (((initial.without gone).inventory kind).erase record.id) =
        initial.without (kind.resource :: gone) := by
    rw [Inventory.erase_current isCurrent, Document.inventory_without, if_neg left,
      Document.without_kind]
  apply release_keeps named
  · exact fun _ => underway.still nofun
  · exact fun _ => underway.agree.still nofun
  · rw [erased]
    exact ⟨kind.resource :: gone, List.subset_cons_self _ _, ⟨rfl, underway.agreed_cons named⟩,
      fun _ => List.mem_cons_self⟩

theorem releaseCurrent_advances {record : Record kind}
    (held : (initial.inventory kind).currentRecord? = some record)
    (underway : Underway initial gone moment) :
    (releaseCurrent record).run.Keeps (terms (mayDeleteCurrent initial)) moment
      (Advances initial gone fun more result => result = .ok () → kind.resource ∈ more) := by
  apply releaseCurrent_keeps
  · exact fun _ => underway.still nofun
  · intro document finds other
    obtain rfl := underway.finds finds
    -- The record of the handle is not current any more, and no other record can be.
    have missing : kind.resource ∈ gone := by
      by_contra left
      have found : ((initial.without gone).inventory kind).currentRecord? = some record := by
        rw [Document.inventory_without, if_neg left, held]
      exact other record found rfl
    exact underway.load.still fun _ => missing
  · intro label document current finds isCurrent _
    obtain rfl := underway.finds finds
    exact release_advances isCurrent underway.load

/-- Releasing a record brings nothing back that was cleared before. -/
theorem releaseCurrent_clears {record : Record kind} {done : List Resource}
    (held : (initial.inventory kind).currentRecord? = some record)
    (reached : HasCleared initial gone done moment) :
    (releaseCurrent record).run.Keeps (terms (mayDeleteCurrent initial)) moment
      (Advances initial gone fun more result =>
        (∀ resource ∈ done, Cleared initial more resource) ∧
          (result = .ok () → Cleared initial more kind.resource)) := by
  obtain ⟨more, grown, underway, cleared⟩ := reached
  apply (releaseCurrent_advances held underway).weaken
  intro result after advances
  obtain ⟨further, also, now, released⟩ := advances
  refine ⟨further, List.Subset.trans grown also, now, ?_, ?_⟩
  · exact fun resource member => (cleared resource member).mono also
  · exact fun succeeded => .inl (released succeeded)

/-- Whatever interrupts it, a deletion leaves handles of all that is not gone yet. -/
theorem Deployment.delete_advances {deployment : Deployment}
    (covers : deployment.Covers initial gone) (underway : Underway initial gone moment) :
    (deployment.delete settings skipDrain).Keeps (terms (mayDeleteCurrent initial)) moment
      (Advances initial gone fun more (left, result) => left.Covers initial more ∧
        (result = .ok () → ∀ resource, Cleared initial more resource)) := by
  apply delete_keeps (HasCleared initial gone [.vm]) (HasCleared initial gone [.disk, .vm])
  · exact fun absent => underway.still (List.forall_mem_singleton.2 (covers.noVm absent))
  · intro target held
    apply (Instance.delete_advances (covers.vm target held) underway).byResult
    · intro _ after advances
      obtain ⟨more, grown, now, done⟩ := advances
      exact ⟨more, grown, now, List.forall_mem_singleton.2 (.inl (done rfl))⟩
    · intro error after advances
      obtain ⟨more, grown, now, _⟩ := advances
      exact ⟨more, grown, now, covers.mono grown, nofun⟩
  · exact fun now vmGone absent => vmGone.cons (covers.noRecord .disk absent)
  · intro now record vmGone held
    apply (releaseCurrent_clears (covers.record .disk record held) vmGone).byResult
    · intro _ after advances
      obtain ⟨more, grown, now, cleared, released⟩ := advances
      exact ⟨more, grown, now, List.forall_mem_cons.2 ⟨released rfl, cleared⟩⟩
    · intro error after advances
      obtain ⟨more, grown, now, cleared, _⟩ := advances
      exact ⟨more, grown, now, (covers.mono grown).dropVm (cleared .vm (by simp)), nofun⟩
  · intro now bothGone absent
    obtain ⟨more, grown, now, cleared⟩ := bothGone.cons (covers.noRecord .stemcell absent)
    have all := forall_cleared cleared
    exact ⟨more, grown, now, empty_covers all, fun _ => all⟩
  · intro now record bothGone held
    apply (releaseCurrent_clears (covers.record .stemcell record held) bothGone).byResult
    · intro _ after advances
      obtain ⟨more, grown, now, cleared, released⟩ := advances
      have all := forall_cleared (List.forall_mem_cons.2 ⟨released rfl, cleared⟩)
      exact ⟨more, grown, now, empty_covers all, fun _ => all⟩
    · intro error after advances
      obtain ⟨more, grown, now, cleared, _⟩ := advances
      have left := (covers.mono grown).dropVm (cleared .vm (by simp))
      exact ⟨more, grown, now, left.dropDisk (cleared .disk (by simp)), nofun⟩

end Steps

end DeploymentLifecycle.Lifecycle
