import DeploymentLifecycle.Effect
import DeploymentLifecycle.IoError
import DeploymentLifecycle.Resource
import DeploymentLifecycle.State.Document

namespace DeploymentLifecycle

/-! What a store of state documents is asked for, and what can go wrong when a document is read, written
or searched. -/

inductive StateError where
  | read (path : String) (cause : IoError)
  | parse (path reason : String)
  | write (path : String) (cause : IoError)
  | recordNotFound (kind : Kind) (id : String)
  | duplicateCid (kind : Kind) (cid : String)
deriving DecidableEq, Repr

def StateError.message : StateError → String
  | .read path cause => "failed to read deployment state " ++ path ++ ": " ++ cause.message
  | .parse path reason => "failed to parse deployment state " ++ path ++ ": " ++ reason
  | .write path cause => "failed to write deployment state " ++ path ++ ": " ++ cause.message
  | .recordNotFound kind id => kind.name ++ " record not found: " ++ id
  | .duplicateCid kind cid => kind.name ++ " record with cid '" ++ cid ++ "' already exists"

namespace Store

/-- `load` makes a document where none is stored yet, `read` does not. `save` replaces the document as
a whole. `freshId` is an identifier that was never given before. -/
inductive Request where
  | load
  | read
  | save (document : Document)
  | freshId

@[reducible]
def Answer : Request → Type
  | .load => Except StateError Document
  | .read => Except StateError (Option Document)
  | .save _ => Except StateError Unit
  | .freshId => String

def signature : Signature := ⟨Request, Answer⟩

/-- A program over a store that may end in an error. -/
abbrev Program (α : Type) := ExceptT StateError (Prog signature) α

def load : Program Document :=
  ExceptT.mk (Prog.request (S := signature) .load)

def read : Program (Option Document) :=
  ExceptT.mk (Prog.request (S := signature) .read)

def save (document : Document) : Program Unit :=
  ExceptT.mk (Prog.request (S := signature) (.save document))

def freshId : Program String :=
  ExceptT.lift (Prog.request (S := signature) .freshId)

end Store

end DeploymentLifecycle
