import DeploymentLifecycle.Cloud.Client
import DeploymentLifecycle.Proofs.Run

namespace DeploymentLifecycle

/-! What a call of a provider makes of the text that its executable leaves behind. -/

theorem CloudErrorKind.ofErrorType_eq_notFound {errorType : String} {resource : Resource} :
    ofErrorType errorType = .notFound resource ↔ errorType = resource.notFoundType := by
  constructor
  · intro same
    unfold ofErrorType at same
    split at same
    · next found =>
      cases same
      have named := List.find?_some found
      exact (eq_of_beq named).symm
    · cases same
  · intro same
    subst same
    cases resource <;> rfl

namespace CloudClient

open CloudWire (Response)

variable {client : CloudClient} {resource : Resource} {cid : Cid resource}
  {execution : Host.Execution} {outcome : Host.Execution.Outcome} {status : Int}
  {output complaints : List UInt8} {reply : Option Response}

/-- What can be read in an output. -/
def reply? (output : List UInt8) : Option Response := Response.ofSymbols? (Text.symbols output)

/-- The reply to a deletion says that the resource is gone, be it only because there is none. -/
def Agrees (resource : Resource) (reply : Option Response) : Prop :=
  ∃ response, reply = some response ∧
    ∀ failure, response.failure = some failure → failure.errorType = resource.notFoundType

/-- What kind of error it is if a reply does not agree. -/
def rejection (reply : Option Response) : CloudErrorKind :=
  match reply.bind (·.failure) with
  | some failure => .ofErrorType failure.errorType
  | none => .transport

/-- The answers that a deletion gives for a reply. -/
inductive Settles (resource : Resource) (reply : Option Response) :
    Except CloudError Deletion → Prop
  | deleted (response : Response) (same : reply = some response)
      (fine : response.failure = none) : Settles resource reply (.ok .deleted)
  | notFound (response : Response) (failure : CloudWire.Failure) (same : reply = some response)
      (failed : response.failure = some failure)
      (unknown : failure.errorType = resource.notFoundType) :
      Settles resource reply (.ok .notFound)
  | refused (error : CloudError) (disagrees : ¬ Agrees resource reply)
      (kind : error.kind = rejection reply) : Settles resource reply (.error error)

theorem Settles.agrees {done : Deletion} (settles : Settles resource reply (.ok done)) :
    Agrees resource reply := by
  cases settles with
  | deleted response same fine =>
      refine ⟨response, same, fun failure failed => ?_⟩
      cases fine.symm.trans failed
  | notFound response failure same failed unknown =>
      refine ⟨response, same, fun other otherFailed => ?_⟩
      obtain rfl := Option.some.inj (failed.symm.trans otherFailed)
      exact unknown

theorem delete_yields {answer : Except CloudError Deletion}
    (run : (client.delete resource cid).Yields [⟨.run execution, outcome⟩] answer) :
    answer = deletion resource (client.result resource.deleteMethod outcome) := by
  obtain ⟨_, _, same, rfl, rfl⟩ := run
  cases same
  rfl

theorem hasVm_yields {vm : Cid .vm} {answer : Except CloudError Bool}
    (run : (client.hasVm vm).Yields [⟨.run execution, outcome⟩] answer) :
    answer = (client.result "has_vm" outcome).bind knowsVm := by
  obtain ⟨_, _, same, rfl, rfl⟩ := run
  cases same
  rfl

theorem delete_settles {answer : Except CloudError Deletion}
    (run : (client.delete resource cid).Yields
      [⟨.run execution, .ended status output complaints⟩] answer) :
    Settles resource (reply? output) answer := by
  rw [delete_yields run, result, ← reply?]
  cases found : reply? output with
  | none => exact .refused _ nofun rfl
  | some response =>
      dsimp only
      cases failed : response.failure with
      | none => exact .deleted response rfl failed
      | some failure =>
          by_cases unknown : failure.errorType = resource.notFoundType
          · have kind := CloudErrorKind.ofErrorType_eq_notFound.2 unknown
            rw [deletion, CloudError.kind, if_pos kind]
            exact .notFound response failure rfl failed unknown
          · have kind := fun same => unknown (CloudErrorKind.ofErrorType_eq_notFound.1 same)
            rw [deletion, CloudError.kind, if_neg kind]
            refine .refused _ ?_ ?_
            · rintro ⟨_, ⟨⟩, agrees⟩
              exact unknown (agrees failure failed)
            · simp [rejection, CloudError.kind, failed]

theorem result_eq_ok {method : String} {value : Json}
    (same : client.result method outcome = .ok value) :
    ∃ status output complaints response, outcome = .ended status output complaints ∧
      reply? output = some response ∧ response.failure = none ∧ response.result = value := by
  unfold result at same
  split at same
  · cases same
  · cases same
  · next status output complaints =>
    split at same
    · cases same
    · next response found =>
      split at same
      · cases same
      · next failed =>
        cases same
        exact ⟨status, output, complaints, response, rfl, found, failed, rfl⟩

theorem knowsVm_eq_ok {value : Json} {known : Bool} (same : knowsVm value = .ok known) :
    value = .bool known := by
  cases value <;> cases same
  rfl

/-- The executable leaves a boolean behind, in a reply without an error. -/
def Says (outcome : Host.Execution.Outcome) (value : Bool) : Prop :=
  ∃ status output complaints response, outcome = .ended status output complaints ∧
    reply? output = some response ∧ response.failure = none ∧ response.result = .bool value

theorem says_of_hasVm {vm : Cid .vm} {known : Bool}
    (run : (client.hasVm vm).Yields [⟨.run execution, outcome⟩] (.ok known)) :
    Says outcome known := by
  have answered := hasVm_yields run
  cases given : client.result "has_vm" outcome with
  | error error =>
      rw [given] at answered
      cases answered
  | ok value =>
      rw [given] at answered
      obtain ⟨status, output, complaints, response, rfl, found, fine, told⟩ := result_eq_ok given
      have same := knowsVm_eq_ok answered.symm
      exact ⟨status, output, complaints, response, rfl, found, fine, told.trans same⟩

end CloudClient

end DeploymentLifecycle
