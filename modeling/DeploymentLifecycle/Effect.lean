namespace DeploymentLifecycle

/-! Programs that ask their surroundings for things and go on with the answers. What can be asked is
a signature; who answers is decided when a program is run. -/

structure Signature where
  Request : Type
  Answer : Request → Type

inductive Prog (S : Signature) (α : Type) where
  | done (value : α)
  | ask (request : S.Request) (next : S.Answer request → Prog S α)

namespace Prog

variable {S T : Signature} {α β : Type}

def bind (program : Prog S α) (next : α → Prog S β) : Prog S β :=
  match program with
  | .done value => next value
  | .ask request go => .ask request fun answer => (go answer).bind next

instance : Monad (Prog S) where
  pure := .done
  bind := Prog.bind

def request (request : S.Request) : Prog S (S.Answer request) :=
  .ask request .done

/-- Runs a program, each request answered by `answer`. -/
def run {m : Type → Type} [Monad m] (answer : (request : S.Request) → m (S.Answer request)) :
    Prog S α → m α
  | .done value => pure value
  | .ask request next => do
    let value ← answer request
    (next value).run answer

/-- Turns a program into one that asks for other things, by a program for each request. -/
def interpret (answer : (request : S.Request) → Prog T (S.Answer request)) (program : Prog S α) :
    Prog T α :=
  program.run answer

end Prog

end DeploymentLifecycle
