import DeploymentLifecycle.Cli.Output
import DeploymentLifecycle.Proofs.Json.RoundTrip
import DeploymentLifecycle.State.Status

namespace DeploymentLifecycle

/-- The text of a stream of lines. -/
def Host.streamed (lines : List String) : String :=
  String.ofList (lines.flatMap fun line => line.toList ++ ['\n'])

namespace Cli

/-! What a consumer makes of the JSON mode: a stream of lines, each of them one JSON value that
tells of something that happened. -/

open Json (Tree)

/-- How a stage ended, as far as it is told. -/
inductive Ended where
  | done
  | skipped (reason : String)
  | failed (message : String)
deriving DecidableEq

def Ended.of : Lifecycle.Outcome → Ended
  | .done => .done
  | .skipped reason => .skipped reason
  | .failed error => .failed error.message

inductive Notice where
  | stage (label : String) (ended : Ended)
  | success (message : String)
  | error (message : String)
  | status (recorded : Option Tree)

namespace Notice

variable {line : String} {lines : List String} {notices : List Notice}

def text? (fields : List (Option String × Tree)) (key : String) : Option String :=
  (fields.lookup (some key)).bind Tree.toText?

/-- A stage that is done has no reason, any other has one. -/
def ended? (fields : List (Option String × Tree)) : Option Ended :=
  match text? fields "outcome", fields.lookup (some "reason") with
  | some "done", none => some .done
  | some "skipped", some (.string (some reason)) => some (.skipped reason)
  | some "failed", some (.string (some message)) => some (.failed message)
  | _, _ => none

/-- Whatever is not an event is what is recorded. -/
def ofTree? : Tree → Option Notice
  | .null => some (.status none)
  | .object fields =>
    match fields.lookup (some "event") with
    | none => some (.status (some (.object fields)))
    | some (.string (some "stage")) => do
      return .stage (← text? fields "name") (← ended? fields)
    | some (.string (some "success")) => (text? fields "message").map .success
    | some (.string (some "error")) => (text? fields "message").map .error
    | some _ => none
  | _ => none

def ofLine? (line : String) : Option Notice := (Tree.ofText? line).bind ofTree?

/-- Every line of a stream ends in a newline, the last one too. -/
def ofStream? (text : String) : Option (List Notice) :=
  let pieces := text.toList.splitOn '\n'
  if pieces.getLast? = some [] then pieces.dropLast.mapM fun piece => ofLine? (String.ofList piece)
  else none

/-- The lines have no newlines in them, and are read as these notices. -/
structure Tells (lines : List String) (notices : List Notice) : Prop where
  framed : ∀ line ∈ lines, '\n' ∉ line.toList
  read : lines.mapM ofLine? = some notices

namespace Tells

theorem nil : Tells [] [] := ⟨by simp, rfl⟩

theorem append {more : List String} {later : List Notice} (tells : Tells lines notices)
    (goesOn : Tells more later) : Tells (lines ++ more) (notices ++ later) where
  framed := List.forall_mem_append.2 ⟨tells.framed, goesOn.framed⟩
  read := by simp [tells.read, goesOn.read]

end Tells

section Streams

theorem splitOn_lines (framed : ∀ line ∈ lines, '\n' ∉ line.toList) :
    (lines.flatMap fun line => line.toList ++ ['\n']).splitOn '\n' =
      lines.map String.toList ++ [[]] := by
  induction lines with
  | nil => rfl
  | cons line rest ih =>
      obtain ⟨first, others⟩ := List.forall_mem_cons.1 framed
      have apart : ∀ c ∈ line.toList, (c == '\n') = false := fun c member => by
        simpa using fun same : c = '\n' => first (same ▸ member)
      rw [List.flatMap_cons, List.append_assoc, List.splitOn]
      simp only [List.cons_append, List.nil_append]
      rw [List.splitOnP_append_cons_of_forall_mem apart '\n' rfl]
      simpa [List.splitOn] using ih others

theorem Tells.stream (tells : Tells lines notices) :
    ofStream? (Host.streamed lines) = some notices := by
  rw [ofStream?, Host.streamed, String.toList_ofList, splitOn_lines tells.framed]
  simpa [Function.comp_def] using tells.read

end Streams

section Events

theorem tells_compact {value : Json} {notice : Notice}
    (read : ofTree? value.readBack = some notice) : Tells [value.compact] [notice] where
  framed := by simpa using value.compact_line.1
  read := by simp [ofLine?, value.compact_line.2, read]

theorem tells_stage (label : String) (outcome : Lifecycle.Outcome) (elapsed : Duration) :
    Tells [(OutputMode.stageJson label outcome elapsed).compact] [.stage label (.of outcome)] := by
  apply tells_compact
  cases outcome <;> rfl

theorem tells_success (message : String) (elapsed : Option Duration) :
    Tells [(eventJson "success" message elapsed).compact] [.success message] := by
  apply tells_compact
  cases elapsed <;> rfl

theorem tells_error (message : String) :
    Tells [(eventJson "error" message none).compact] [.error message] :=
  tells_compact rfl

theorem tells_status (recorded : Option Status) :
    Tells [((recorded.map Status.toJson).getD .null).compact]
      [.status (recorded.map fun status => status.toJson.readBack)] := by
  apply tells_compact
  cases recorded <;> rfl

end Events

end Notice

end Cli

end DeploymentLifecycle
