import DeploymentLifecycle.Proofs.Run
import DeploymentLifecycle.Proofs.State.Codec
import DeploymentLifecycle.Proofs.Text.Utf8
import DeploymentLifecycle.State.FileStore

namespace DeploymentLifecycle.FileStore

/-! What is saved to a file is read from it again. -/

variable {store : FileStore} {document : Document} {trace : List (Event Host.signature)}

theorem document?_toText (store : FileStore) (proper : document.Proper) (whole : document.Whole) :
    store.document? document.toText = .ok (some document.settle) := by
  have visible : Text.isBlankText document.toText = false := by
    simp [Document.toText, Document.toJson, Json.pretty, Json.chars, Text.isBlankText,
      Text.isBlank, Text.blankRanges]
  simp [document?, visible, Document.ofText?_toText proper whole]

theorem document?_toText_of_settled (store : FileStore) (settled : document.Settled)
    (whole : document.Whole) : store.document? document.toText = .ok (some document) := by
  rw [document?_toText store settled.proper whole, settled.settle]

theorem settled_of_document? {text : String} (read : store.document? text = .ok (some document)) :
    document.Settled := by
  rw [document?] at read
  split at read
  · cases read
  · split at read
    · next found =>
      cases read
      exact Document.settled_of_ofText? found
    · cases read

/-- The store takes the document out of the content of its file. -/
def Reads (store : FileStore) (content : List UInt8) (stored : Option Document) : Prop :=
  store.read.Yields [⟨.read store.path, .ok content⟩] (.ok stored)

/-- A run ends with the text in the file of the store: it is written beside it, and takes its
place. -/
def Places (store : FileStore) (trace : List (Event Host.signature)) (text : String) : Prop :=
  ∃ earlier, trace = earlier ++
    [⟨.write store.temporary text, .ok ()⟩, ⟨.rename store.temporary store.path, .ok ()⟩]

theorem reads_iff {content : List UInt8} {stored : Option Document} :
    store.Reads content stored ↔
      ∃ text, Text.decode? content = some text ∧ store.document? text = .ok stored := by
  constructor
  · intro run
    obtain ⟨_, _, same, run⟩ := run
    cases same
    cases decoded : Text.decode? content with
    | none =>
        simp only [Prog.bind, decoded] at run
        cases run.2
    | some text =>
        simp only [Prog.bind, decoded] at run
        exact ⟨text, rfl, run.2.symm⟩
  · intro found
    obtain ⟨text, decoded, read⟩ := found
    refine ⟨_, [], rfl, ?_⟩
    simp only [Prog.bind, decoded]
    exact ⟨rfl, read.symm⟩

open Host (ask)

/-- Makes the directories that the file lies in. -/
def prepare (store : FileStore) : ExceptT StateError (Prog Host.signature) Unit :=
  match store.path.parent? with
  | some parent =>
    if parent.text.isEmpty then pure () else store.writing (ask (.makeDirectories parent))
  | none => pure ()

/-- Puts a text in the place of what the file holds. -/
def replace (store : FileStore) (text : String) :
    ExceptT StateError (Prog Host.signature) Unit := do
  store.writing (ask (.write store.temporary text))
  store.writing (ask (.rename store.temporary store.path))

theorem save_eq (store : FileStore) (document : Document) :
    store.save document =
      (do store.prepare; store.replace document.toText : ExceptT _ _ _).run := by
  rw [save, prepare]
  cases store.path.parent? with
  | none => rfl
  | some parent =>
      dsimp only
      cases parent.text.isEmpty <;> rfl

theorem writing_ok {step : Host.Program (Except IoError Unit)}
    (run : (store.writing step).run.Yields trace (.ok ())) : step.Yields trace (.ok ()) := by
  obtain ⟨outcome, first, rest, rfl, start, finish⟩ := Prog.yields_bind.1 run
  cases outcome with
  | ok value =>
      obtain ⟨rfl, _⟩ := finish
      simpa using start
  | error cause => exact absurd finish.2 nofun

theorem save_places (run : (store.save document).Yields trace (.ok ())) :
    store.Places trace document.toText := by
  rw [save_eq] at run
  rcases Prog.yields_exceptBind.1 run with ⟨_, failed, _⟩ | ⟨_, earlier, _, rfl, _, run⟩
  · cases failed
  · rcases Prog.yields_exceptBind.1 run with ⟨_, failed, _⟩ | ⟨_, _, _, rfl, write, rename⟩
    · cases failed
    · have write := Prog.yields_request.1 (writing_ok write)
      have rename := Prog.yields_request.1 (writing_ok rename)
      exact ⟨earlier, by rw [write, rename]; rfl⟩

theorem exists_save (store : FileStore) (document : Document) :
    ∃ trace, (store.save document).Yields trace (.ok ()) := by
  have prepared : ∃ trace, store.prepare.run.Yields trace (.ok ()) := by
    rw [prepare]
    split
    · split
      · exact ⟨[], rfl, rfl⟩
      · exact ⟨_, .ok (), [], rfl, rfl, rfl⟩
    · exact ⟨[], rfl, rfl⟩
  have replaced : (store.replace document.toText).run.Yields
      [⟨.write store.temporary document.toText, .ok ()⟩,
        ⟨.rename store.temporary store.path, .ok ()⟩] (.ok ()) :=
    ⟨.ok (), _, rfl, .ok (), _, rfl, rfl, rfl⟩
  obtain ⟨trace, made⟩ := prepared
  rw [save_eq]
  exact ⟨_, Prog.yields_exceptBind.2 (.inr ⟨(), trace, _, rfl, made, replaced⟩)⟩

/-- Whatever document is saved, it is read back as it was, as far as a file can tell documents
apart. What is read of any content is such a document, and saving it for a second time writes the
same text as the first. -/
theorem saved_documents_read_back (store : FileStore) :
    (∀ document : Document, document.Settled → document.Whole →
      (∃ trace, (store.save document).Yields trace (.ok ())) ∧
      ∀ trace, (store.save document).Yields trace (.ok ()) →
        ∃ text, store.Places trace text ∧ store.Reads (Text.encode text) (some document)) ∧
    ∀ content document, store.Reads content (some document) → document.Whole →
      document.Settled ∧ ∀ trace, (store.save document).Yields trace (.ok ()) →
        ∃ text, store.Places trace text ∧ store.Reads (Text.encode text) (some document) ∧
          ∀ again later, store.Reads (Text.encode text) (some again) →
            (store.save again).Yields later (.ok ()) → store.Places later text := by
  have back : ∀ document : Document, document.Settled → document.Whole →
      store.Reads (Text.encode document.toText) (some document) := fun document settled whole =>
    reads_iff.2 ⟨_, Text.decode?_encode _, document?_toText_of_settled store settled whole⟩
  constructor
  · intro document settled whole
    refine ⟨exists_save store document, fun trace run => ?_⟩
    exact ⟨document.toText, save_places run, back document settled whole⟩
  · intro content document reads whole
    obtain ⟨text, _, read⟩ := reads_iff.1 reads
    have settled := settled_of_document? read
    refine ⟨settled, fun trace run => ?_⟩
    refine ⟨document.toText, save_places run, back document settled whole, ?_⟩
    intro again later reread rerun
    obtain ⟨_, decoded, found⟩ := reads_iff.1 reread
    rw [Text.decode?_encode] at decoded
    cases decoded
    rw [document?_toText_of_settled store settled whole] at found
    cases found
    exact save_places rerun

/-- One disk, with a list, a negative number and a quote in its properties. -/
def documentWithProperties : Document where
  directorId := "director"
  currentVm := some ⟨"vm"⟩
  disks := {
    current := some ⟨"d"⟩
    records := [⟨⟨"d"⟩, ⟨"cid"⟩, { size := 8, cloudProperties :=
      [("list", .array [.number (.int (-1)), .null]), ("quote", .string "\"")] }⟩] }

/-- The text `{"current_vm_cid":"","was":null}`. -/
def emptyPointerChars : List Char :=
  ['{', '"', 'c', 'u', 'r', 'r', 'e', 'n', 't', '_', 'v', 'm', '_', 'c', 'i', 'd', '"', ':', '"',
    '"', ',', '"', 'w', 'a', 's', '"', ':', 'n', 'u', 'l', 'l', '}']

theorem document?_emptyPointer (store : FileStore) :
    store.document? (String.ofList emptyPointerChars) = .ok (some {}) := by
  have visible : Text.isBlankText (String.ofList emptyPointerChars) = false := by
    rw [Text.isBlankText, String.toList_ofList]
    rfl
  have tree : Json.Tree.ofText? (String.ofList emptyPointerChars) = some (.object
      [(some (String.ofList ['c', 'u', 'r', 'r', 'e', 'n', 't', '_', 'v', 'm', '_', 'c', 'i', 'd']),
        .string (some (String.ofList []))),
      (some (String.ofList ['w', 'a', 's']), .null)]) := by
    rw [Json.Tree.ofText?, Json.Symbol.ofText, String.toList_ofList]
    rfl
  simp only [document?, visible, Document.ofText?, tree]
  rfl

theorem document_with_properties_read_back :
    let store : FileStore := ⟨⟨"state.json"⟩⟩
    documentWithProperties.Settled ∧ documentWithProperties.Whole ∧
    (∃ trace text, (store.save documentWithProperties).Yields trace (.ok ()) ∧
      store.Places trace text ∧ store.Reads (Text.encode text) (some documentWithProperties)) ∧
    store.Reads (Text.encode (String.ofList emptyPointerChars)) (some {}) ∧
    ({} : Document).Settled ∧
    ∃ trace text, (store.save {}).Yields trace (.ok ()) ∧ store.Places trace text ∧
      store.Reads (Text.encode text) (some {}) := by
  have settled : documentWithProperties.Settled := by
    refine ⟨⟨by decide, fun kind => by cases kind <;> decide⟩, List.forall_mem_singleton.2 ?_⟩
    refine ⟨?_, ⟨trivial, trivial, trivial⟩, trivial, trivial⟩
    exact List.pairwise_pair.2 (by decide)
  have whole : documentWithProperties.Whole :=
    List.forall_mem_singleton.2 ⟨⟨.int (by decide) (by decide), trivial, trivial⟩, trivial, trivial⟩
  have reads : FileStore.Reads ⟨⟨"state.json"⟩⟩
      (Text.encode (String.ofList emptyPointerChars)) (some {}) :=
    reads_iff.2 ⟨_, Text.decode?_encode _, document?_emptyPointer _⟩
  obtain ⟨kept, normalised⟩ := saved_documents_read_back ⟨⟨"state.json"⟩⟩
  obtain ⟨⟨trace, run⟩, places⟩ := kept documentWithProperties settled whole
  obtain ⟨blank, again⟩ := normalised _ {} reads (by simp [Document.Whole])
  obtain ⟨later, rerun⟩ := exists_save ⟨⟨"state.json"⟩⟩ {}
  obtain ⟨text, placed, read⟩ := places trace run
  obtain ⟨same, replaced, reread, _⟩ := again later rerun
  exact ⟨settled, whole, ⟨trace, text, run, placed, read⟩, reads, blank,
    later, same, rerun, replaced, reread⟩

end DeploymentLifecycle.FileStore
