import DeploymentLifecycle.Proofs.Lifecycle.Conduct
import DeploymentLifecycle.Proofs.Lifecycle.Failure
import Mathlib.Data.Fintype.EquivFin
import Mathlib.Data.Set.Insert

namespace DeploymentLifecycle

theorem Store.exists_fresh (document : Document) :
    ∃ text, ∀ kind, (document.inventory kind).hasId ⟨text⟩ = false := by
  let taken := document.disks.records.map (·.id.text) ++ document.stemcells.records.map (·.id.text)
  obtain ⟨text, free⟩ := Infinite.exists_notMem_finset taken.toFinset
  refine ⟨text, fun kind => Inventory.hasId_eq_false.2 fun record member same => free ?_⟩
  rw [List.mem_toFinset, List.mem_append]
  cases kind with
  | disk => exact .inl (List.mem_map.2 ⟨record, member, congrArg RecordId.text same⟩)
  | stemcell => exact .inr (List.mem_map.2 ⟨record, member, congrArg RecordId.text same⟩)

theorem Store.exists_answer (stored : Option Document) (request : Store.Request) :
    ∃ answer after, Serves stored ⟨request, answer⟩ after ∧ ¬ Fails ⟨request, answer⟩ := by
  cases request with
  | load =>
      cases stored with
      | some document => exact ⟨.ok document, some document, .loaded document, id⟩
      | none => exact ⟨.ok _, _, .created "" "", id⟩
  | read => exact ⟨.ok stored, stored, .read stored, id⟩
  | save document => exact ⟨.ok (), some document, .saved stored document, id⟩
  | freshId =>
      obtain ⟨text, fresh⟩ := exists_fresh (content stored)
      exact ⟨text, stored, .named stored text fresh, id⟩

namespace Lifecycle

/-! A provider that holds resources until it is told to delete them. Each call may fail, before it
had an effect or after it. -/

inductive Provides : Conduct signature (Set Asset)
  | known (live : Set Asset) (vm : Cid .vm) (held : ⟨.vm, vm⟩ ∈ live) :
      Provides live ⟨.hasVm vm, .ok true⟩ live
  | unknown (live : Set Asset) (vm : Cid .vm) (absent : ⟨.vm, vm⟩ ∉ live) :
      Provides live ⟨.hasVm vm, .ok false⟩ live
  | unasked (live : Set Asset) (vm : Cid .vm) (error : CloudError) :
      Provides live ⟨.hasVm vm, .error error⟩ live
  | deleted (live : Set Asset) (resource : Resource) (cid : Cid resource)
      (held : ⟨resource, cid⟩ ∈ live) :
      Provides live ⟨.delete resource cid, .ok .deleted⟩ (live \ {⟨resource, cid⟩})
  | notFound (live : Set Asset) (resource : Resource) (cid : Cid resource)
      (absent : ⟨resource, cid⟩ ∉ live) : Provides live ⟨.delete resource cid, .ok .notFound⟩ live
  | notDeleted (live : Set Asset) (resource : Resource) (cid : Cid resource) (error : CloudError) :
      Provides live ⟨.delete resource cid, .error error⟩ live
  | replyLost (live : Set Asset) (resource : Resource) (cid : Cid resource) (error : CloudError) :
      Provides live ⟨.delete resource cid, .error error⟩ (live \ {⟨resource, cid⟩})
  | other (live : Set Asset) (request : Request) (answer : Answer request)
      (other : ¬ request.IsCloud) :
      Provides live ⟨request, answer⟩ live

section Live

variable {live after : Set Asset} {event : Event signature} {trace : List (Event signature)}

theorem Provides.subset (provides : Provides live event after) : after ⊆ live := by
  cases provides with
  | deleted | replyLost => exact Set.sdiff_subset
  | _ => exact subset_rfl

theorem Provides.gone_of_agreed {asset : Asset} (provides : Provides live event after)
    (agreed : agreement? event = some asset) : asset ∉ after := by
  cases provides with
  | deleted resource cid held =>
      obtain rfl := Option.some.inj agreed
      simp
  | notFound _ resource cid absent =>
      obtain rfl := Option.some.inj agreed
      exact absent
  | other _ request answer other =>
      cases request with
      | delete => exact (other trivial).elim
      | _ => cases agreed
  | _ => cases agreed

theorem Provides.held_of_other {asset : Asset} (provides : Provides live event after)
    (other : event.request ≠ .delete asset.resource asset.cid) (held : asset ∈ live) :
    asset ∈ after := by
  cases provides with
  | deleted resource cid => exact ⟨held, fun same => other (by cases same; rfl)⟩
  | replyLost resource cid => exact ⟨held, fun same => other (by cases same; rfl)⟩
  | _ => exact held

theorem gone_along {asset : Asset} (along : Provides.Along live trace after)
    (gone : asset ∉ live ∨ asset ∈ agreements trace) : asset ∉ after := by
  induction trace generalizing live with
  | nil =>
      obtain rfl : after = live := along
      exact gone.resolve_right (by simp [agreements])
  | cons event rest ih =>
      obtain ⟨middle, provides, along⟩ := along
      refine ih along ?_
      rcases gone with absent | agreed
      · exact .inl fun held => absent (provides.subset held)
      · obtain ⟨given, member, named⟩ := List.mem_filterMap.1 agreed
        rcases List.mem_cons.1 member with rfl | later
        · exact .inl (provides.gone_of_agreed named)
        · exact .inr (List.mem_filterMap.2 ⟨given, later, named⟩)

theorem held_along {asset : Asset} (along : Provides.Along live trace after)
    (other : ∀ event ∈ trace, event.request ≠ .delete asset.resource asset.cid) :
    asset ∈ after ↔ asset ∈ live := by
  induction trace generalizing live with
  | nil => rw [show after = live from along]
  | cons event rest ih =>
      obtain ⟨middle, provides, along⟩ := along
      rw [ih along fun later member => other later (by simp [member])]
      exact ⟨fun held => provides.subset held, provides.held_of_other (other event (by simp))⟩

end Live

structure World where
  stored : Option Document
  live : Set Asset

namespace World

def conduct : Conduct signature World := fun world event after =>
  surroundings world.stored event after.stored ∧ Provides world.live event after.live

variable {world after : World} {trace : List (Event signature)}

theorem along_stored (along : conduct.Along world trace after) :
    surroundings.Along world.stored trace after.stored :=
  along.project fun _ _ _ step => step.1

theorem along_live (along : conduct.Along world trace after) :
    Provides.Along world.live trace after.live :=
  along.project fun _ _ _ step => step.2

theorem exists_answer (world : World) (request : Request) : ∃ answer after,
    conduct world ⟨request, answer⟩ after ∧ ¬ Fails ⟨request, answer⟩ := by
  obtain ⟨stored, live⟩ := world
  cases request with
  | store request =>
      obtain ⟨answer, after, serves, fine⟩ := Store.exists_answer stored request
      have still : Provides live ⟨.store request, answer⟩ live :=
        .other live (.store request) answer id
      exact ⟨answer, ⟨after, live⟩, ⟨serves, still⟩, fine⟩
  | hasVm vm =>
      by_cases held : ⟨.vm, vm⟩ ∈ live
      · exact ⟨.ok true, ⟨stored, live⟩, ⟨rfl, .known live vm held⟩, id⟩
      · exact ⟨.ok false, ⟨stored, live⟩, ⟨rfl, .unknown live vm held⟩, id⟩
  | delete resource cid =>
      by_cases held : ⟨resource, cid⟩ ∈ live
      · have gone := Provides.deleted live resource cid held
        exact ⟨.ok .deleted, ⟨stored, live \ {⟨resource, cid⟩}⟩, ⟨rfl, gone⟩, id⟩
      · exact ⟨.ok .notFound, ⟨stored, live⟩, ⟨rfl, .notFound live resource cid held⟩, id⟩
  | ping limit => exact ⟨.answered "pong", ⟨stored, live⟩, ⟨rfl, .other live _ _ id⟩, id⟩
  | getState => exact ⟨.ok { jobState := "running" }, ⟨stored, live⟩, ⟨rfl, .other live _ _ id⟩, id⟩
  | listDisk => exact ⟨.ok [], ⟨stored, live⟩, ⟨rfl, .other live _ _ id⟩, id⟩
  | now => exact ⟨.zero, ⟨stored, live⟩, ⟨rfl, .other live _ _ id⟩, id⟩
  | runScript | drain | stop | start | unmountDisk =>
      exact ⟨.ok (), ⟨stored, live⟩, ⟨rfl, .other live _ _ id⟩, id⟩
  | sleep | stageBegun | stageEnded => exact ⟨(), ⟨stored, live⟩, ⟨rfl, .other live _ _ id⟩, id⟩

theorem exists_success {α : Type} {program : Prog signature α} {success : α → Prop} (world : World)
    (stops : program.StopsAtFailure (policy success)) : ∃ trace result after,
    program.Yields trace result ∧ success result ∧ conduct.Along world trace after ∧
      ∀ event ∈ trace, ¬ Fails event := by
  let good : Event signature → Prop := fun event => ¬ Fails event
  have answers : ∀ world request, ∃ answer after,
      conduct world ⟨request, answer⟩ after ∧ good ⟨request, answer⟩ := exists_answer
  obtain ⟨trace, result, after, run, along, fine⟩ := Prog.exists_run answers program world
  exact ⟨trace, result, after, run, (stops.success_iff run).2 fine, along, fine⟩

end World

end Lifecycle

end DeploymentLifecycle
