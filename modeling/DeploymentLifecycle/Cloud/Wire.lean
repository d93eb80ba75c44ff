import DeploymentLifecycle.Cloud.Error
import DeploymentLifecycle.Json.Printer
import DeploymentLifecycle.Json.Reader

namespace DeploymentLifecycle.CloudWire

/-! The JSON messages that are exchanged with a provider's executable. -/

/-- The reason given for an answer that cannot be read. -/
def jsonReason : String := "<json>"

def request (method : String) (arguments : List Json) (context : Json.Fields)
    (apiVersion : Option UInt32) : String :=
  (Json.object ([("method", .string method), ("arguments", .array arguments),
      ("context", .object context)]
    ++ (apiVersion.map fun version => ("api_version", Json.natural version.toNat)).toList)).compact

/-- An error that the provider reports. -/
structure Failure where
  errorType : String
  message : String := ""
  okToRetry : Bool := false
deriving DecidableEq, Repr

structure Response where
  result : Json := .null
  failure : Option Failure := none
  log : String := ""
deriving Repr

def text? : Option Json.Tree → Option String
  | none => some ""
  | some tree => tree.toText?

def failure? : Option Json.Tree → Option (Option Failure)
  | none => some none
  | some .null => some none
  | some tree => do
    match ← tree.record? ["type", "message", "ok_to_retry"] with
    | [some errorType, message, okToRetry] =>
      let okToRetry ← match okToRetry with
        | some tree => tree.toBool?
        | none => some false
      return some ⟨← errorType.toText?, ← text? message, okToRetry⟩
    | _ => none

def Response.ofTree? (tree : Json.Tree) : Option Response := do
  match ← tree.record? ["result", "error", "log"] with
  | [result, failure, log] =>
    let result ← match result with
      | some tree => tree.toJson? (Json.nestingLimit - 1)
      | none => some .null
    return ⟨result, ← failure? failure, ← text? log⟩
  | _ => none

def Response.ofSymbols? (input : List Json.Symbol) : Option Response := do
  Response.ofTree? (← Json.Tree.ofSymbols? input)

end DeploymentLifecycle.CloudWire
