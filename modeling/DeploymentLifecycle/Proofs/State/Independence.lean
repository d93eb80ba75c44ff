import DeploymentLifecycle.Proofs.State.Atomic

namespace DeploymentLifecycle

open Store

/-! The VM, the disks and the stemcells of a document do not get in each other's way. An operation
looks at the part of its own resource and changes no other; so what a run does to one part, it does
by the operations on that part alone, whatever comes between them. -/

/-- The documents hold the same of a resource: the current VM, or the records of a kind with their
pointer. -/
def Document.AgreeOn (document other : Document) : Resource → Prop
  | .vm => document.currentVm = other.currentVm
  | .disk => document.disks = other.disks
  | .stemcell => document.stemcells = other.stemcells

/-- The documents have the same identities. -/
def Document.SameIdentities (document other : Document) : Prop :=
  document.directorId = other.directorId ∧ document.installationId = other.installationId

namespace Document

variable {document other third : Document} {resource : Resource} {kind : Kind}
  {inventory : Inventory kind} {vm : Option (Cid .vm)}

theorem agreeOn_kind :
    document.AgreeOn other kind.resource ↔ document.inventory kind = other.inventory kind := by
  cases kind <;> exact Iff.rfl

theorem AgreeOn.refl (document : Document) : document.AgreeOn document resource := by
  cases resource <;> rfl

theorem AgreeOn.symm (agree : document.AgreeOn other resource) :
    other.AgreeOn document resource := by
  cases resource <;> exact Eq.symm agree

theorem AgreeOn.trans (agree : document.AgreeOn other resource)
    (further : other.AgreeOn third resource) : document.AgreeOn third resource := by
  cases resource <;> exact Eq.trans agree further

theorem agreeOn_withCurrentVm (different : resource ≠ .vm) :
    ({ document with currentVm := vm } : Document).AgreeOn document resource := by
  cases resource with
  | vm => exact absurd rfl different
  | disk | stemcell => rfl

theorem agreeOn_withInventory (different : resource ≠ kind.resource) :
    (document.withInventory inventory).AgreeOn document resource := by
  cases kind <;> cases resource <;> first | rfl | exact absurd rfl different

theorem sameIdentities_withInventory :
    (document.withInventory inventory).SameIdentities document := by
  cases kind <;> exact ⟨rfl, rfl⟩

theorem SameIdentities.trans (same : document.SameIdentities other)
    (further : other.SameIdentities third) : document.SameIdentities third :=
  ⟨same.1.trans further.1, same.2.trans further.2⟩

theorem eq_of_agree (same : document.SameIdentities other)
    (agree : ∀ resource, document.AgreeOn other resource) : document = other :=
  eq_of_parts same.1 same.2 (agree .vm) fun kind => agreeOn_kind.1 (agree kind.resource)

end Document

/-- What a verdict answers, and the document that it leaves on a store that works. -/
def Verdict.outcome {α : Type} (document : Document) : Verdict α → Except StateError α × Document
  | .answer result => (result, document)
  | .replace changed value => (.ok value, changed)

@[simp]
theorem Verdict.outcome_answer {α : Type} {document : Document} {result : Except StateError α} :
    (Verdict.answer result).outcome document = (result, document) := rfl

@[simp]
theorem Verdict.outcome_replace {α : Type} {document changed : Document} {value : α} :
    (Verdict.replace changed value).outcome document = (.ok value, changed) := rfl

namespace RepositoryStep

/-- The resource that an operation is about. -/
def resource : RepositoryStep → Resource
  | .currentVm | .setCurrentVm _ | .clearCurrentVm => .vm
  | .current kind | .clearCurrent kind | .all kind | .unused kind => kind.resource
  | .find kind _ | .insert kind _ _ => kind.resource
  | @RepositoryStep.setCurrent kind _ | @RepositoryStep.delete kind _ => kind.resource

variable {step : RepositoryStep} {given : String} {document other after : Document}
  {trace : List (Event Store.signature)} {answer : Except StateError step.Answer}
  {resource : Resource}

/-- What an operation answers, and the document that it leaves, if no request of it fails. -/
def outcome (step : RepositoryStep) (given : String) (document : Document) :
    Except StateError step.Answer × Document :=
  (step.verdict given document).outcome document

/-- An operation leaves alone what is not of its resource. -/
theorem outcome_frame (step : RepositoryStep) (given : String) (document : Document) :
    (step.outcome given document).2.SameIdentities document ∧
      ∀ resource ≠ step.resource, (step.outcome given document).2.AgreeOn document resource := by
  have idle : document.SameIdentities document ∧
      ∀ resource ≠ step.resource, document.AgreeOn document resource :=
    ⟨⟨rfl, rfl⟩, fun _ _ => .refl document⟩
  unfold outcome
  cases step with
  | currentVm | current kind | find kind cid | all kind | unused kind => exact idle
  | setCurrentVm cid => exact ⟨⟨rfl, rfl⟩, fun _ => Document.agreeOn_withCurrentVm⟩
  | clearCurrentVm =>
      rw [verdict]
      split
      · exact ⟨⟨rfl, rfl⟩, fun _ => Document.agreeOn_withCurrentVm⟩
      · exact idle
  | setCurrent id | clearCurrent kind | delete id =>
      rw [verdict]
      split
      · exact ⟨Document.sameIdentities_withInventory, fun _ => Document.agreeOn_withInventory⟩
      · exact idle
  | insert kind cid details =>
      rw [verdict]
      split
      · exact idle
      · exact ⟨Document.sameIdentities_withInventory, fun _ => Document.agreeOn_withInventory⟩

/-- An operation sees nothing but what is of its resource. -/
theorem outcome_congr (step : RepositoryStep) (given : String)
    (agree : document.AgreeOn other step.resource) :
    (step.outcome given document).1 = (step.outcome given other).1 ∧
      (step.outcome given document).2.AgreeOn (step.outcome given other).2 step.resource := by
  unfold outcome
  cases step with
  | currentVm => exact ⟨congrArg Except.ok agree, agree⟩
  | setCurrentVm cid => exact ⟨rfl, rfl⟩
  | clearCurrentVm =>
      have same : document.currentVm = other.currentVm := agree
      simp only [verdict, same]
      split
      · exact ⟨rfl, rfl⟩
      · exact ⟨rfl, agree⟩
  | current kind | find kind cid | all kind | unused kind =>
      have same := Document.agreeOn_kind.1 agree
      exact ⟨by simp only [verdict, Verdict.outcome_answer, same], agree⟩
  | setCurrent id | clearCurrent kind | delete id | insert kind cid details =>
      have same := Document.agreeOn_kind.1 agree
      simp only [verdict, same]
      split <;>
        refine ⟨rfl, Document.agreeOn_kind.2 ?_⟩ <;>
        simp only [Verdict.outcome_answer, Verdict.outcome_replace,
          Document.inventory_withInventory, same]

/-- On a store that works, and that gives this identifier where it is asked for one, the operation
comes to the answer and leaves the document. -/
def Does (step : RepositoryStep) (given : String) (document : Document)
    (answer : Except StateError step.Answer) (after : Document) : Prop :=
  ∃ trace, step.program.run.Yields trace answer ∧ Holds.Along document trace after ∧ Fine trace ∧
    ∀ text, ⟨.freshId, text⟩ ∈ trace → text = given

theorem verdict_of_naming {text : String}
    (named : ∀ other, ⟨.freshId, other⟩ ∈ step.naming text → other = given) :
    step.verdict text document = step.verdict given document := by
  cases step with
  | insert kind cid details => rw [named text (List.mem_singleton.2 rfl)]
  | _ => rfl

theorem Does.eq_outcome (does : step.Does given document answer after) :
    (answer, after) = step.outcome given document := by
  obtain ⟨trace, run, along, fine, named⟩ := does
  cases course run along with
  | unread text error => simp [Fails] at fine
  | unsaved text error judged => simp [Fails] at fine
  | answered text judged =>
      have same : step.verdict text document = step.verdict given document :=
        verdict_of_naming fun other member => named other (List.mem_append_left _ member)
      rw [outcome, ← same, judged, Verdict.outcome_answer]
  | saved text judged =>
      have same : step.verdict text document = step.verdict given document :=
        verdict_of_naming fun other member => named other (List.mem_append_left _ member)
      rw [outcome, ← same, judged, Verdict.outcome_replace]

/-- A store that works lets every operation come to an end. -/
theorem exists_does (step : RepositoryStep) (given : String) (document : Document) :
    ∃ answer after, step.Does given document answer after := by
  let good (event : Event Store.signature) : Prop :=
    ¬ Fails event ∧ ∀ text, event = ⟨.freshId, text⟩ → text = given
  have answers : ∀ (held : Document) (request : Store.Request), ∃ answer after,
      Holds held ⟨request, answer⟩ after ∧ good ⟨request, answer⟩ := by
    intro held request
    cases request with
    | load => exact ⟨.ok held, held, .loaded held, by simp [Fails], fun _ same => by cases same⟩
    | read => exact ⟨.ok (some held), held, .read held, by simp [Fails], fun _ same => by cases same⟩
    | save changed => exact ⟨.ok (), changed, .saved held changed, by simp [Fails], fun _ same => by cases same⟩
    | freshId =>
        refine ⟨given, held, .named held given, by simp [Fails], fun text same => ?_⟩
        cases same
        rfl
  obtain ⟨trace, answer, after, run, along, kept⟩ :=
    Prog.exists_run answers step.program.run document
  exact ⟨answer, after, trace, run, along, fun event member => (kept event member).1,
    fun text member => (kept _ member).2 text rfl⟩

theorem does_iff : step.Does given document answer after ↔
    (answer, after) = step.outcome given document := by
  refine ⟨Does.eq_outcome, fun same => ?_⟩
  obtain ⟨found, left, does⟩ := exists_does step given document
  cases same.trans does.eq_outcome.symm
  exact does

end RepositoryStep

/-- An operation, with the identifier that it is given if it asks for one. -/
structure Act where
  step : RepositoryStep
  given : String

def Act.resource (act : Act) : Resource := act.step.resource

/-- An operation, with the answer that it came to. -/
structure Reply where
  step : RepositoryStep
  answer : Except StateError step.Answer

def Reply.resource (reply : Reply) : Resource := reply.step.resource

/-- The operations are done one after another on a store that works: their answers, and the document
that they leave. -/
inductive Runs : Document → List Act → List Reply → Document → Prop
  | done (document : Document) : Runs document [] [] document
  | act {document middle after : Document} {act : Act} {rest : List Act} {replies : List Reply}
      {answer : Except StateError act.step.Answer}
      (first : act.step.Does act.given document answer middle)
      (onward : Runs middle rest replies after) :
      Runs document (act :: rest) (⟨act.step, answer⟩ :: replies) after

namespace Runs

variable {document other after last : Document} {acts : List Act} {replies others : List Reply}
  {resource : Resource}

theorem exists_runs (acts : List Act) (document : Document) :
    ∃ replies after, Runs document acts replies after := by
  induction acts generalizing document with
  | nil => exact ⟨[], document, .done document⟩
  | cons act rest ih =>
      obtain ⟨answer, middle, first⟩ := act.step.exists_does act.given document
      obtain ⟨replies, after, onward⟩ := ih middle
      exact ⟨_, after, .act first onward⟩

theorem unique (runs : Runs document acts replies after) (again : Runs document acts others last) :
    others = replies ∧ last = after := by
  induction runs generalizing others last with
  | done => cases again; exact ⟨rfl, rfl⟩
  | act first _ ih =>
      cases again with
      | act refirst onward =>
          cases refirst.eq_outcome.trans first.eq_outcome.symm
          obtain ⟨rfl, rfl⟩ := ih onward
          exact ⟨rfl, rfl⟩

theorem sameIdentities (runs : Runs document acts replies after) :
    after.SameIdentities document := by
  induction runs with
  | done => exact ⟨rfl, rfl⟩
  | @act document _ _ act _ _ _ first _ ih =>
      have frame := (act.step.outcome_frame act.given document).1
      rw [← first.eq_outcome] at frame
      exact ih.trans frame

/-- What a run does to one resource, the operations on that resource do by themselves. -/
theorem restrict (runs : Runs document acts replies after)
    (agree : other.AgreeOn document resource) :
    ∃ last, Runs other (acts.filter (·.resource = resource))
      (replies.filter (·.resource = resource)) last ∧ last.AgreeOn after resource := by
  induction runs generalizing other with
  | done document => exact ⟨other, .done other, agree⟩
  | @act document middle _ act _ _ answer first _ ih =>
      have does := first.eq_outcome
      by_cases own : act.resource = resource
      · subst own
        obtain ⟨answered, left⟩ := act.step.outcome_congr act.given agree
        rw [← does] at left
        obtain ⟨last, onward, agreed⟩ := ih left
        have redone : act.step.Does act.given other answer (act.step.outcome act.given other).2 :=
          RepositoryStep.does_iff.2 (Prod.ext ((congrArg Prod.fst does).trans answered.symm) rfl)
        refine ⟨last, ?_, agreed⟩
        have replied : (⟨act.step, answer⟩ : Reply).resource = act.resource := rfl
        simp only [List.filter_cons, replied, decide_true, if_true]
        exact .act redone onward
      · have frame := (act.step.outcome_frame act.given document).2 resource (Ne.symm own)
        rw [← does] at frame
        obtain ⟨last, onward, agreed⟩ := ih (agree.trans frame.symm)
        refine ⟨last, ?_, agreed⟩
        have replied : ¬ (⟨act.step, answer⟩ : Reply).resource = resource := own
        simpa only [List.filter_cons, own, replied, decide_false, Bool.false_eq_true, if_false]
          using onward

/-- Two runs that hold the same operations on every resource in the same order have the same answers
and leave the same document. -/
theorem interleave (runs : Runs document acts replies after) {mixed : List Act}
    (same : ∀ resource, mixed.filter (·.resource = resource) = acts.filter (·.resource = resource)) :
    ∃ others, Runs document mixed others after ∧ ∀ resource,
      others.filter (·.resource = resource) = replies.filter (·.resource = resource) := by
  obtain ⟨others, last, mixing⟩ := exists_runs mixed document
  have alike : ∀ resource, others.filter (·.resource = resource) =
      replies.filter (·.resource = resource) ∧ last.AgreeOn after resource := by
    intro resource
    obtain ⟨alone, own, agree⟩ := runs.restrict (.refl document)
    obtain ⟨_, mixedOwn, mixedAgree⟩ := mixing.restrict (.refl document)
    rw [same resource] at mixedOwn
    obtain ⟨answers, rfl⟩ := own.unique mixedOwn
    exact ⟨answers, mixedAgree.symm.trans agree⟩
  have identities : last.SameIdentities after :=
    ⟨mixing.sameIdentities.1.trans runs.sameIdentities.1.symm,
      mixing.sameIdentities.2.trans runs.sameIdentities.2.symm⟩
  obtain rfl := Document.eq_of_agree identities fun resource => (alike resource).2
  exact ⟨others, mixing, fun resource => (alike resource).1⟩

theorem swap {first second : Act} {earlier later : Reply}
    (different : first.resource ≠ second.resource)
    (runs : Runs document [first, second] [earlier, later] after) :
    Runs document [second, first] [later, earlier] after := by
  have same : ∀ resource, [second, first].filter (·.resource = resource) =
      [first, second].filter (·.resource = resource) := by
    intro resource
    by_cases own : first.resource = resource
    · have foreign : ¬ second.resource = resource := fun also => different (own.trans also.symm)
      simp [own, foreign]
    · simp [List.filter_cons, own]
  obtain ⟨others, swapped, alike⟩ := runs.interleave same
  have foreign : first.step.resource ≠ second.step.resource := different
  cases runs with
  | act _ onward =>
    cases onward with
    | act _ ends =>
      cases ends
      cases swapped with
      | act redone onward =>
        cases onward with
        | act renext ends =>
          cases ends
          have firstAnswer := alike first.step.resource
          have secondAnswer := alike second.step.resource
          simp [Reply.resource, foreign, foreign.symm] at firstAnswer secondAnswer
          rw [← firstAnswer, ← secondAnswer]
          exact .act redone (.act renext (.done after))

end Runs

/-- The VM, the disks and the stemcells are independent of each other. Every run comes to one end,
which leaves alone what none of its operations is about. Two operations of different resources may
be done in either order. Runs that hold the same operations on each resource, in the same order, have
the same answers, and leave the same document. -/
theorem kinds_independent :
    (∀ acts document, ∃ replies after, Runs document acts replies after ∧
      ∀ others last, Runs document acts others last → others = replies ∧ last = after) ∧
    (∀ act document reply after, Runs document [act] [reply] after →
      after.SameIdentities document ∧
        ∀ resource ≠ act.resource, after.AgreeOn document resource) ∧
    (∀ first second : Act, first.resource ≠ second.resource →
      ∀ document earlier later after, Runs document [first, second] [earlier, later] after →
        Runs document [second, first] [later, earlier] after) ∧
    ∀ acts mixed : List Act, (∀ resource,
        mixed.filter (·.resource = resource) = acts.filter (·.resource = resource)) →
      ∀ document replies after, Runs document acts replies after →
        ∃ others, Runs document mixed others after ∧ ∀ resource,
          others.filter (·.resource = resource) = replies.filter (·.resource = resource) := by
  refine ⟨fun acts document => ?_, fun act document reply after runs => ?_,
    fun _ _ different _ _ _ _ runs => runs.swap different,
    fun _ _ same _ _ _ runs => runs.interleave same⟩
  · obtain ⟨replies, after, runs⟩ := Runs.exists_runs acts document
    exact ⟨replies, after, runs, fun _ _ again => runs.unique again⟩
  · cases runs with
    | act does ends =>
      cases ends
      have frame := act.step.outcome_frame act.given document
      rwa [← does.eq_outcome] at frame

/-- A disk that is refused, a stemcell that is added and a VM that becomes current, and the same in
another order. -/
theorem refused_disk_beside_stemcell :
    let taken : Record .disk := ⟨⟨"id-0"⟩, ⟨"c"⟩, {}⟩
    let document : Document := { disks := { records := [taken] } }
    let disk : Act := ⟨.insert .disk ⟨"c"⟩ {}, "id-1"⟩
    let stemcell : Act := ⟨.insert .stemcell ⟨"c"⟩ {}, "id-2"⟩
    let vm : Act := ⟨.setCurrentVm ⟨"v"⟩, ""⟩
    ∃ refused added pointed middle after, disk.resource ≠ stemcell.resource ∧
      refused = ⟨disk.step, .error (.duplicateCid .disk "c")⟩ ∧
      Runs document [disk, stemcell] [refused, added] middle ∧
      Runs document [stemcell, disk] [added, refused] middle ∧
      Runs document [disk, stemcell, vm] [refused, added, pointed] after ∧
      ∃ others, Runs document [vm, stemcell, disk] others after ∧ ∀ resource,
        others.filter (·.resource = resource) =
          [refused, added, pointed].filter (·.resource = resource) := by
  intro taken document disk stemcell vm
  let record : Record .stemcell := ⟨⟨"id-2"⟩, ⟨"c"⟩, {}⟩
  let refused : Reply := ⟨disk.step, .error (.duplicateCid .disk "c")⟩
  let added : Reply := ⟨stemcell.step, .ok record⟩
  let pointed : Reply := ⟨vm.step, .ok ()⟩
  let middle : Document := { document with stemcells := { records := [record] } }
  let after : Document := { middle with currentVm := some ⟨"v"⟩ }
  obtain ⟨_, _, swap, interleave⟩ := kinds_independent
  have different : disk.resource ≠ stemcell.resource := nofun
  have refuses : disk.step.Does disk.given document refused.answer document :=
    RepositoryStep.does_iff.2 rfl
  have adds : stemcell.step.Does stemcell.given document added.answer middle :=
    RepositoryStep.does_iff.2 rfl
  have points : vm.step.Does vm.given middle pointed.answer after := RepositoryStep.does_iff.2 rfl
  have two : Runs document [disk, stemcell] [refused, added] middle :=
    .act refuses (.act adds (.done middle))
  have three : Runs document [disk, stemcell, vm] [refused, added, pointed] after :=
    .act refuses (.act adds (.act points (.done after)))
  have same : ∀ resource, [vm, stemcell, disk].filter (·.resource = resource) =
      [disk, stemcell, vm].filter (·.resource = resource) := by
    intro resource
    cases resource <;> rfl
  exact ⟨refused, added, pointed, middle, after, different, rfl, two,
    swap disk stemcell different document refused added middle two, three,
    interleave _ _ same document _ after three⟩

end DeploymentLifecycle
