import DeploymentLifecycle.Host
import DeploymentLifecycle.State.Codec
import DeploymentLifecycle.State.Store
import DeploymentLifecycle.Text.Basic
import DeploymentLifecycle.Text.Utf8

namespace DeploymentLifecycle

/-! The state document in a file. It is written to a file beside it first, which then takes its place,
so that no reader ever meets half of a document. -/

structure FileStore where
  path : Path

namespace FileStore

open Host (Program ask)

/-- The reason given for a text that is no state document. -/
def jsonReason : String := "<json>"

/-- The file that a document is first written to. -/
def temporary (store : FileStore) : Path :=
  store.path.withFileName (store.path.fileName?.getD "" ++ ".tmp")

/-- The document in a text; a blank text holds none. -/
def document? (store : FileStore) (text : String) : Except StateError (Option Document) :=
  if Text.isBlankText text then .ok none
  else
    match Document.ofText? text with
    | some document => .ok (some document)
    | none => .error (.parse store.path.text jsonReason)

def read (store : FileStore) : Program (Except StateError (Option Document)) := do
  match ← ask (.read store.path) with
  | .ok bytes =>
    match Text.decode? bytes with
    | some text => return store.document? text
    | none => return .error (.read store.path.text .notText)
  | .error cause =>
    if cause = .notFound then return .ok none
    else return .error (.read store.path.text cause)

/-- Runs a step of writing. -/
def writing (store : FileStore) (step : Program (Except IoError Unit)) :
    ExceptT StateError (Prog Host.signature) Unit :=
  ExceptT.mk do
    match ← step with
    | .ok () => return .ok ()
    | .error cause => return .error (.write store.path.text cause)

def save (store : FileStore) (document : Document) : Program (Except StateError Unit) :=
  ExceptT.run do
    match store.path.parent? with
    | some parent =>
      if !parent.text.isEmpty then store.writing (ask (.makeDirectories parent))
    | none => pure ()
    store.writing (ask (.write store.temporary document.toText))
    store.writing (ask (.rename store.temporary store.path))

/-- A document that records nothing but identities of its own. -/
def fresh : Program Document := do
  let directorId ← ask .freshId
  let installationId ← ask .freshId
  return { directorId, installationId }

def load (store : FileStore) : Program (Except StateError Document) := do
  match ← store.read with
  | .ok (some document) => return .ok document
  | .ok none =>
    let document ← fresh
    match ← store.save document with
    | .ok () => return .ok document
    | .error e => return .error e
  | .error e => return .error e

def answer (store : FileStore) : (request : Store.Request) → Program (Store.Answer request)
  | .load => store.load
  | .read => store.read
  | .save document => store.save document
  | .freshId => ask .freshId

end FileStore

end DeploymentLifecycle
