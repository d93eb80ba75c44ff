import DeploymentLifecycle.Proofs.Lifecycle.Failure
import DeploymentLifecycle.Proofs.State.Verdict

namespace DeploymentLifecycle

/-! Operations on a stored document change it in one save or not at all, and save only what is a
change. -/

namespace Store

/-- The conduct of a store that holds a document. Any request may fail, which leaves the document as
it was. An identifier may be any text. -/
inductive Holds : Conduct signature Document
  | loaded (document : Document) : Holds document ⟨.load, .ok document⟩ document
  | notLoaded (document : Document) (error : StateError) :
      Holds document ⟨.load, .error error⟩ document
  | read (document : Document) : Holds document ⟨.read, .ok (some document)⟩ document
  | notRead (document : Document) (error : StateError) :
      Holds document ⟨.read, .error error⟩ document
  | saved (document changed : Document) : Holds document ⟨.save changed, .ok ()⟩ changed
  | notSaved (document changed : Document) (error : StateError) :
      Holds document ⟨.save changed, .error error⟩ document
  | named (document : Document) (text : String) : Holds document ⟨.freshId, text⟩ document

/-- The documents that were to be saved, whether or not that failed. -/
def saves (trace : List (Event signature)) : List Document :=
  trace.filterMap fun event =>
    match event with
    | ⟨.save document, _⟩ => some document
    | _ => none

/-- No request failed. -/
def Fine (trace : List (Event signature)) : Prop := ∀ event ∈ trace, ¬ Fails event

section Trace

variable {trace rest : List (Event signature)} {event : Event signature} {document : Document}
  {found : Except StateError Document} {saved : Except StateError Unit}

@[simp]
theorem saves_append : saves (trace ++ rest) = saves trace ++ saves rest := List.filterMap_append

@[simp]
theorem saves_load : saves (⟨.load, found⟩ :: trace) = saves trace := rfl

@[simp]
theorem saves_save : saves (⟨.save document, saved⟩ :: trace) = document :: saves trace := rfl

@[simp]
theorem saves_nil : saves [] = [] := rfl

@[simp]
theorem fine_append : Fine (trace ++ rest) ↔ Fine trace ∧ Fine rest := List.forall_mem_append

@[simp]
theorem fine_cons : Fine (event :: trace) ↔ ¬ Fails event ∧ Fine trace := List.forall_mem_cons

@[simp]
theorem fine_nil : Fine [] := List.forall_mem_nil _

end Trace

section Course

variable {trace : List (Event signature)} {document after : Document}

theorem load_yields {result : Except StateError Document} :
    load.run.Yields trace result ↔ trace = [⟨.load, result⟩] :=
  Prog.yields_request

theorem save_yields {result : Except StateError Unit} :
    (save document).run.Yields trace result ↔ trace = [⟨.save document, result⟩] :=
  Prog.yields_request

end Course

end Store

open Store

namespace Inventory

variable {kind : Kind} {inventory : Inventory kind} {id : RecordId kind}

theorem hasId_iff : inventory.hasId id ↔ ∃ record ∈ inventory.records, record.id = id := by
  simp [hasId]

theorem hasCid_iff {cid : Cid kind.resource} :
    inventory.hasCid cid ↔ ∃ record ∈ inventory.records, record.cid = cid := by
  simp [hasCid]

theorem mentions_iff : inventory.mentions id ↔
    (∃ record ∈ inventory.records, record.id = id) ∨ inventory.current = some id := by
  rw [mentions, Bool.or_eq_true, hasId_iff, beq_iff_eq]

theorem erase_current_ne : (inventory.erase id).current ≠ some id := by
  rw [erase]
  split
  · exact (Option.some_ne_none id).symm
  · assumption

end Inventory

namespace Verdict

variable {α : Type} {condition : Prop} [Decidable condition] {document changed : Document}
  {value again : α} {result outcome : Except StateError α}

theorem guarded_eq_replace :
    (if condition then Verdict.replace document value else .answer result) =
      .replace changed again ↔ condition ∧ document = changed ∧ value = again := by
  split <;> simp_all

theorem guarded_eq_answer :
    (if condition then Verdict.replace document value else .answer result) =
      .answer outcome ↔ ¬ condition ∧ result = outcome := by
  split <;> simp_all

theorem barred_eq_replace :
    (if condition then Verdict.answer result else .replace document value) =
      .replace changed again ↔ ¬ condition ∧ document = changed ∧ value = again := by
  split <;> simp_all

theorem barred_eq_answer :
    (if condition then Verdict.answer result else .replace document value) =
      .answer outcome ↔ condition ∧ result = outcome := by
  split <;> simp_all

end Verdict

namespace RepositoryStep

variable {step : RepositoryStep} {trace asked : List (Event Store.signature)} {text : String}
  {document after : Document} {result : Except StateError step.Answer}

/-- The events in which an operation is given an identifier, if it needs one. -/
def naming (text : String) : RepositoryStep → List (Event Store.signature)
  | .insert .. => [⟨.freshId, text⟩]
  | _ => []

/-- How an operation goes. It loads the document, and has then come to a verdict about it. -/
inductive Course (step : RepositoryStep) (document : Document) :
    List (Event Store.signature) → Except StateError step.Answer → Document → Prop
  | unread (text : String) (error : StateError) :
      Course step document (step.naming text ++ [⟨.load, .error error⟩]) (.error error) document
  | answered (text : String) {result : Except StateError step.Answer}
      (verdict : step.verdict text document = .answer result) :
      Course step document (step.naming text ++ [⟨.load, .ok document⟩]) result document
  | saved (text : String) {changed : Document} {value : step.Answer}
      (verdict : step.verdict text document = .replace changed value) :
      Course step document
        (step.naming text ++ [⟨.load, .ok document⟩, ⟨.save changed, .ok ()⟩]) (.ok value) changed
  | unsaved (text : String) (error : StateError) {changed : Document} {value : step.Answer}
      (verdict : step.verdict text document = .replace changed value) :
      Course step document
        (step.naming text ++ [⟨.load, .ok document⟩, ⟨.save changed, .error error⟩]) (.error error)
        document

theorem identifier_yields {outcome : Except StateError String}
    (run : step.identifier.run.Yields trace outcome) :
    ∃ text, outcome = .ok text ∧ trace = step.naming text := by
  cases step with
  | insert kind cid details =>
      obtain ⟨text, _, rfl, rfl, rfl⟩ := run
      exact ⟨text, rfl, rfl⟩
  | _ =>
      obtain ⟨rfl, rfl⟩ := run
      exact ⟨"", rfl, rfl⟩

theorem naming_along (along : Holds.Along document (step.naming text) after) :
    after = document := by
  cases step with
  | insert kind cid details =>
      obtain ⟨_, named, rfl⟩ := along
      cases named
      rfl
  | _ => exact along

theorem course (run : step.program.run.Yields trace result)
    (along : Holds.Along document trace after) : Course step document trace result after := by
  simp only [program_eq, opening, bind_assoc, pure_bind] at run
  rcases Prog.yields_exceptBind.1 run with
    ⟨error, _, failing⟩ | ⟨text, first, rest, rfl, naming, onward⟩
  · obtain ⟨_, same, _⟩ := identifier_yields failing
    cases same
  obtain ⟨_, same, rfl⟩ := identifier_yields naming
  cases same
  obtain ⟨now, named, later⟩ := Conduct.along_append.1 along
  obtain rfl := naming_along named
  rcases Prog.yields_exceptBind.1 onward with
    ⟨error, rfl, failing⟩ | ⟨found, _, late, rfl, loading, judging⟩
  · obtain rfl := load_yields.1 failing
    obtain ⟨_, loaded, rfl⟩ := later
    cases loaded
    exact .unread text error
  obtain rfl := load_yields.1 loading
  obtain ⟨_, loaded, later⟩ := later
  cases loaded
  cases verdict : step.verdict text now with
  | answer outcome =>
      rw [verdict] at judging
      obtain ⟨rfl, rfl⟩ := judging
      obtain rfl := later
      exact .answered text verdict
  | replace changed value =>
      rw [verdict] at judging
      rcases Prog.yields_exceptBind.1 judging with
        ⟨error, rfl, failing⟩ | ⟨_, _, _, rfl, saving, rfl, rfl⟩
      · obtain rfl := save_yields.1 failing
        obtain ⟨_, notSaved, rfl⟩ := later
        cases notSaved
        exact .unsaved text error verdict
      · obtain rfl := save_yields.1 saving
        obtain ⟨_, saved, rfl⟩ := later
        cases saved
        exact .saved text verdict

/-- Whether an operation has something to save. -/
def Writes (document : Document) : RepositoryStep → Prop
  | .setCurrentVm _ => True
  | .clearCurrentVm => document.currentVm ≠ none
  | @RepositoryStep.setCurrent kind id =>
    ∃ record ∈ (document.inventory kind).records, record.id = id
  | .clearCurrent kind => (document.inventory kind).current ≠ none
  | @RepositoryStep.delete kind id =>
    (∃ record ∈ (document.inventory kind).records, record.id = id) ∨
      (document.inventory kind).current = some id
  | .insert kind cid _ => ∀ record ∈ (document.inventory kind).records, record.cid ≠ cid
  | .currentVm | .current _ | .find _ _ | .all _ | .unused _ => False

/-- The error that an operation makes of a document that it can load. -/
def Refuses (document : Document) : RepositoryStep → StateError → Prop
  | @RepositoryStep.setCurrent kind id, error =>
    (∀ record ∈ (document.inventory kind).records, record.id ≠ id) ∧
      error = .recordNotFound kind id.text
  | .insert kind cid _, error =>
    (∃ record ∈ (document.inventory kind).records, record.cid = cid) ∧
      error = .duplicateCid kind cid.text
  | _, _ => False

def Clears : RepositoryStep → Prop
  | .clearCurrentVm | .clearCurrent _ | .delete _ => True
  | _ => False

section Verdict

variable {changed onward : Document} {value again : step.Answer} {given : String}
  {error : StateError}

theorem writes_of_replace (judged : step.verdict text document = .replace changed value) :
    step.Writes document := by
  cases step with
  | setCurrentVm cid => trivial
  | clearCurrentVm => exact Option.isSome_iff_ne_none.1 (Verdict.guarded_eq_replace.1 judged).1
  | setCurrent id => exact Inventory.hasId_iff.1 (Verdict.guarded_eq_replace.1 judged).1
  | clearCurrent kind => exact Option.isSome_iff_ne_none.1 (Verdict.guarded_eq_replace.1 judged).1
  | delete id => exact Inventory.mentions_iff.1 (Verdict.guarded_eq_replace.1 judged).1
  | insert kind cid details =>
      have absent := (Verdict.barred_eq_replace.1 judged).1
      exact Inventory.hasCid_eq_false.1 (Bool.eq_false_iff.2 absent)
  | currentVm | current kind | find kind cid | all kind | unused kind => cases judged

theorem not_writes_of_answer (judged : step.verdict text document = .answer result) :
    ¬ step.Writes document := by
  cases step with
  | setCurrentVm cid => cases judged
  | clearCurrentVm =>
      exact mt Option.isSome_iff_ne_none.2 (Verdict.guarded_eq_answer.1 judged).1
  | setCurrent id => exact mt Inventory.hasId_iff.2 (Verdict.guarded_eq_answer.1 judged).1
  | clearCurrent kind =>
      exact mt Option.isSome_iff_ne_none.2 (Verdict.guarded_eq_answer.1 judged).1
  | delete id => exact mt Inventory.mentions_iff.2 (Verdict.guarded_eq_answer.1 judged).1
  | insert kind cid details =>
      obtain ⟨record, member, same⟩ := Inventory.hasCid_iff.1 (Verdict.barred_eq_answer.1 judged).1
      exact fun fresh => fresh record member same
  | currentVm | current kind | find kind cid | all kind | unused kind => exact not_false

theorem not_refuses_of_replace (judged : step.verdict text document = .replace changed value) :
    ¬ step.Refuses document error := by
  have writes := writes_of_replace judged
  cases step with
  | setCurrent id =>
      obtain ⟨record, member, same⟩ := writes
      exact fun refuses => refuses.1 record member same
  | insert kind cid details =>
      rintro ⟨⟨record, member, same⟩, -⟩
      exact writes record member same
  | _ => exact not_false

theorem refuses_iff_of_answer (judged : step.verdict text document = .answer result) :
    step.Refuses document error ↔ result = .error error := by
  have unwritten := not_writes_of_answer judged
  cases step with
  | setCurrent id =>
      obtain ⟨-, rfl⟩ := Verdict.guarded_eq_answer.1 judged
      simpa [Refuses, eq_comm] using fun _ => not_exists.1 unwritten
  | insert kind cid details =>
      obtain ⟨present, rfl⟩ := Verdict.barred_eq_answer.1 judged
      simpa [Refuses, eq_comm] using fun _ => Inventory.hasCid_iff.1 present
  | setCurrentVm cid => cases judged
  | clearCurrentVm | clearCurrent kind | delete id =>
      obtain ⟨-, rfl⟩ := Verdict.guarded_eq_answer.1 judged
      exact ⟨False.elim, nofun⟩
  | currentVm | current kind | find kind cid | all kind | unused kind =>
      cases judged
      exact ⟨False.elim, nofun⟩

/-- An operation that saves once more saves what it saved before. -/
theorem verdict_again (judged : step.verdict text document = .replace changed value)
    (rejudged : step.verdict given changed = .replace onward again) :
    onward = changed ∧ ¬ step.Clears := by
  have writes := writes_of_replace rejudged
  cases step with
  | setCurrentVm cid =>
      cases judged
      cases rejudged
      exact ⟨rfl, not_false⟩
  | setCurrent id =>
      obtain ⟨-, rfl, -⟩ := Verdict.guarded_eq_replace.1 judged
      obtain ⟨-, rfl, -⟩ := Verdict.guarded_eq_replace.1 rejudged
      exact ⟨by simp, not_false⟩
  | clearCurrentVm =>
      obtain ⟨-, rfl, -⟩ := Verdict.guarded_eq_replace.1 judged
      exact absurd rfl writes
  | clearCurrent kind =>
      obtain ⟨-, rfl, -⟩ := Verdict.guarded_eq_replace.1 judged
      simp [Writes] at writes
  | delete id =>
      obtain ⟨-, rfl, -⟩ := Verdict.guarded_eq_replace.1 judged
      simp only [Writes, Document.inventory_withInventory] at writes
      rcases writes with ⟨record, kept, same⟩ | named
      · exact absurd same (Inventory.mem_erase_records.1 kept).2
      · exact absurd named Inventory.erase_current_ne
  | insert kind cid details =>
      obtain ⟨-, rfl, -⟩ := Verdict.barred_eq_replace.1 judged
      exact absurd rfl (writes ⟨⟨text⟩, cid, details⟩ (by simp [Inventory.insert]))
  | currentVm | current kind | find kind cid | all kind | unused kind => cases judged

end Verdict

section Course

variable {again : Document} {answer : Except StateError step.Answer}
  {later : List (Event Store.signature)} {error : StateError}

@[simp]
theorem saves_naming : saves (step.naming text) = [] := by
  cases step <;> rfl

@[simp]
theorem fine_naming : Fine (step.naming text) := by
  cases step <;> simp [naming, Fails]

@[simp]
theorem load_notMem_naming {found : Except StateError Document} :
    ⟨.load, found⟩ ∉ step.naming text := by
  cases step with
  | insert kind cid details =>
      rw [naming, List.mem_singleton]
      nofun
  | _ => exact List.not_mem_nil

theorem notMem_of_unread :
    ⟨.load, .ok document⟩ ∉ step.naming text ++ [⟨.load, .error error⟩] := by
  rw [List.mem_append, List.mem_singleton, not_or]
  exact ⟨load_notMem_naming, nofun⟩

namespace Course

theorem document_of_error (course : step.Course document trace result after)
    (failed : result = .error error) : after = document ∧
      (⟨.load, .error error⟩ ∈ trace ∨ (∃ changed, ⟨.save changed, .error error⟩ ∈ trace) ∨
        step.Refuses document error) := by
  cases course with
  | unread text cause =>
      cases failed
      exact ⟨rfl, .inl (by simp)⟩
  | answered text judged => exact ⟨rfl, .inr (.inr ((refuses_iff_of_answer judged).2 failed))⟩
  | saved text judged => cases failed
  | @unsaved text cause changed value judged =>
      cases failed
      exact ⟨rfl, .inr (.inl ⟨changed, by simp⟩)⟩

theorem document_of_ok {value : step.Answer} (course : step.Course document trace result after)
    (succeeded : result = .ok value) : after = (saves trace).headD document := by
  cases course with
  | unread | unsaved => cases succeeded
  | answered | saved => simp

theorem saves_eq (course : step.Course document trace result after) :
    saves trace = [] ∨ ∃ changed, saves trace = [changed] := by
  cases course with
  | unread | answered => exact .inl (by simp)
  | saved text judged => exact .inr ⟨after, by simp⟩
  | @unsaved text cause changed value judged => exact .inr ⟨changed, by simp⟩

theorem saves_iff (course : step.Course document trace result after) :
    saves trace ≠ [] ↔ ⟨.load, .ok document⟩ ∈ trace ∧ step.Writes document := by
  cases course with
  | unread text error =>
      simp only [notMem_of_unread, false_and, iff_false, not_not]
      simp
  | answered text judged => simp [not_writes_of_answer judged]
  | saved text judged => simp [writes_of_replace judged]
  | unsaved text error judged => simp [writes_of_replace judged]

theorem refuses_iff (course : step.Course document trace result after)
    (loaded : ⟨.load, .ok document⟩ ∈ trace) :
    step.Refuses document error ↔ result = .error error ∧ Fine trace := by
  cases course with
  | unread text cause => exact absurd loaded notMem_of_unread
  | answered text judged => simp [refuses_iff_of_answer judged, Fails]
  | saved text judged => simp [not_refuses_of_replace judged]
  | unsaved text cause judged => simp [not_refuses_of_replace judged, Fails]

theorem unchanged {given : String} {onward : Document} {value : step.Answer}
    (course : step.Course document trace result after) (fine : Fine trace)
    (judged : step.verdict given after = .replace onward value) :
    onward = after ∧ ¬ step.Clears := by
  cases course with
  | unread text cause => simp [Fails] at fine
  | answered text answered =>
      exact absurd (writes_of_replace judged) (not_writes_of_answer answered)
  | saved text replaced => exact verdict_again replaced judged
  | unsaved text cause replaced => simp [Fails] at fine

/-- What an operation does once more, after it went well. -/
theorem once_more (course : step.Course document trace result after) (fine : Fine trace)
    (anew : step.Course after later answer again) :
    again = after ∧ (step.Clears → saves later = []) := by
  cases anew with
  | unread | answered => exact ⟨rfl, fun _ => by simp⟩
  | saved text judged =>
      obtain ⟨same, lasting⟩ := course.unchanged fine judged
      exact ⟨same, fun clears => absurd clears lasting⟩
  | unsaved text cause judged =>
      obtain ⟨-, lasting⟩ := course.unchanged fine judged
      exact ⟨rfl, fun clears => absurd clears lasting⟩

end Course

end Course

/-- An operation that fails leaves the document as it was, and has a reason. It saves at most once,
and does so exactly if there is something to save. Done twice in a row, it leaves what it left when
done once. -/
theorem repository_operation_atomic (run : step.program.run.Yields trace result)
    (along : Holds.Along document trace after) :
    (∀ error, result = .error error → after = document ∧
      (⟨.load, .error error⟩ ∈ trace ∨ (∃ changed, ⟨.save changed, .error error⟩ ∈ trace) ∨
        step.Refuses document error)) ∧
    (∀ value, result = .ok value → after = (saves trace).headD document) ∧
    (saves trace).length ≤ 1 ∧
    (saves trace ≠ [] ↔ ⟨.load, .ok document⟩ ∈ trace ∧ step.Writes document) ∧
    (⟨.load, .ok document⟩ ∈ trace → ∀ error,
      step.Refuses document error ↔ result = .error error ∧ Fine trace) ∧
    (Fine trace → ∀ later answer again, step.program.run.Yields later answer →
      Holds.Along after later again → again = after ∧ (step.Clears → saves later = [])) := by
  have course := course run along
  refine ⟨fun error failed => course.document_of_error failed,
    fun value succeeded => course.document_of_ok succeeded, ?_, course.saves_iff,
    fun loaded error => course.refuses_iff loaded,
    fun fine later answer again rerun alongAgain => ?_⟩
  · rcases course.saves_eq with none | ⟨changed, one⟩
    · simp [none]
    · simp [one]
  · exact course.once_more fine (RepositoryStep.course rerun alongAgain)

/-- The current disk's record is deleted, and then deleted again to no effect. -/
theorem record_deleted_twice : ∃ (id : RecordId .disk) (document left : Document) (trace later : _),
    (delete id).program.run.Yields trace (.ok ()) ∧ Holds.Along document trace left ∧
    (delete id).program.run.Yields later (.ok ()) ∧ Holds.Along left later left ∧
    left ≠ document ∧ saves trace = [left] ∧ (delete id).Writes document ∧ saves later = [] := by
  let document : Document := { disks := ⟨some ⟨"id-1"⟩, [⟨⟨"id-1"⟩, ⟨"disk-1"⟩, {}⟩]⟩ }
  let left : Document := {}
  let trace : List (Event Store.signature) := [⟨.load, .ok document⟩, ⟨.save left, .ok ()⟩]
  let later : List (Event Store.signature) := [⟨.load, .ok left⟩]
  let step : RepositoryStep := @delete .disk ⟨"id-1"⟩
  have run : step.program.run.Yields trace (.ok ()) := ⟨_, _, rfl, _, _, rfl, rfl, rfl⟩
  have along : Holds.Along document trace left := ⟨_, .loaded _, _, .saved _ _, rfl⟩
  have rerun : step.program.run.Yields later (.ok ()) := ⟨_, _, rfl, rfl, rfl⟩
  have alongAgain : Holds.Along left later left := ⟨_, .loaded _, rfl⟩
  obtain ⟨_, _, _, saved, _, again⟩ := repository_operation_atomic run along
  have fine : Fine trace := by simp [trace, Fails]
  obtain ⟨_, unsaved⟩ := again fine later (.ok ()) left rerun alongAgain
  have changed : left ≠ document := fun same => absurd (congrArg (·.disks.current) same) nofun
  have writes : step.Writes document := (saved.1 (List.cons_ne_nil _ _)).2
  exact ⟨⟨"id-1"⟩, document, left, trace, later, run, along, rerun, alongAgain, changed, rfl,
    writes, unsaved trivial⟩

end RepositoryStep

end DeploymentLifecycle
