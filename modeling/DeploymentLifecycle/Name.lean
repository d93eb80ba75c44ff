namespace DeploymentLifecycle

/-! Job names, and the `job/index` label of an instance. -/

inductive JobNameError where
  | empty
  | tooLong
  | invalidChar (c : Char)
deriving DecidableEq, Repr

def JobNameError.message : JobNameError → String
  | .empty => "job name cannot be empty"
  | .tooLong => "job name exceeds maximum length of 128 characters"
  | .invalidChar c => "invalid character in job name: '" ++ c.toString ++ "'"

/-- Letters and digits of ASCII, `-`, `_` and `.`. -/
def isJobNameChar (c : Char) : Bool :=
  c.isAlphanum || c == '-' || c == '_' || c == '.'

/-- A name that jobs may have: not empty, of at most 128 bytes, and of permitted characters only. -/
structure JobName where
  text : String
  nonempty : text ≠ ""
  short : text.utf8ByteSize ≤ 128
  permitted : ∀ c ∈ text.toList, isJobNameChar c
deriving DecidableEq, Repr

namespace JobName

def ofText (text : String) : Except JobNameError JobName :=
  if isEmpty : text = "" then .error .empty
  else if isLong : text.utf8ByteSize > 128 then .error .tooLong
  else
    match found : text.toList.find? fun c => !isJobNameChar c with
    | some c => .error (.invalidChar c)
    | none =>
      .ok ⟨text, isEmpty, Nat.le_of_not_lt isLong, fun c member => by
        simpa using List.find?_eq_none.1 found c member⟩

/-- The name of a job for which none is given. -/
def unknown : JobName :=
  ⟨"unknown", by decide, by decide, List.all_eq_true.1 (by decide)⟩

instance : Inhabited JobName := ⟨unknown⟩

end JobName

structure InstanceName where
  job : JobName := .unknown
  index : UInt32 := 0
deriving DecidableEq, Repr

namespace InstanceName

def label (name : InstanceName) : String :=
  name.job.text ++ "/" ++ toString name.index.toNat

end InstanceName

end DeploymentLifecycle
