import DeploymentLifecycle.Proofs.FileTree.Disk
import DeploymentLifecycle.Proofs.FileTree.Navigation
import DeploymentLifecycle.Proofs.State.InStep

namespace DeploymentLifecycle

/-! A document that is saved takes the place of the one before it, or the one before it is left as it
was, wherever the disk fails. -/

namespace FileTree

variable {tree other : FileTree} {current place parent besideParent : Place} {path beside : Path}
  {name besideName text besideText : String} {before : List Path.Part}

/-- Two paths that differ in their names alone lead to the same directory. -/
theorem same_parent (whole : path.parts = before ++ [.name text])
    (sibling : beside.parts = before ++ [.name besideText])
    (located : tree.locate current path = .ok place)
    (reached : tree.approach current beside = .ok (besideParent, some besideName)) :
    besideName = besideText ∧ place = besideParent ++ [text] := by
  obtain ⟨_, split, walked⟩ := reach_of_approach reached
  obtain ⟨rfl, same⟩ := List.append_inj' (sibling.symm.trans split) rfl
  cases same
  have plain := @Path.plainName_of_mem path text (by simp [whole])
  have arrived := reach_of_locate located
  rw [whole, reach_concat plain] at arrived
  obtain ⟨_, again, _, named⟩ := arrived
  cases walked.symm.trans again
  exact ⟨rfl, (child_eq_ok.1 named).2⟩

end FileTree

namespace FileStore

open FileTree (Place)
open Host (ask)
open Prog (Keeps)

variable {store : FileStore} {current place : Place} {tree base after : FileTree}
  {document : Document} {text : String}

/-- Nothing is demanded of what a program asks a disk for. -/
def onDisk (current : Place) : Terms Host.signature FileTree := ⟨fun _ _ => True, disk current⟩

/-- The directories that the file lies in. -/
def parents (store : FileStore) : List Path :=
  match store.path.parent? with
  | some parent => parent.lineage
  | none => []

/-- Of the directories that the file lies in, some of the outer ones may have been made. -/
def PartlyPrepares (store : FileStore) (current : Place) (tree made : FileTree) : Prop :=
  ∃ outer, outer <:+ store.parents ∧ made = (tree.ensureFirst current outer).2

/-- What a step of writing comes to, and what it leaves. -/
def Outcome (store : FileStore) (done failed : FileTree → Prop) :
    Except StateError Unit → FileTree → Prop
  | .ok (), after => done after
  | .error error, after => (∃ cause, error = .write store.path.text cause) ∧ failed after

theorem writing_keeps {step : Host.Program (Except IoError Unit)} {done failed : FileTree → Prop}
    (keeps : step.Keeps (onDisk current) tree fun outcome after =>
      (outcome = .ok () → done after) ∧ ∀ cause, outcome = .error cause → failed after) :
    (store.writing step).run.Keeps (onDisk current) tree (store.Outcome done failed) := by
  refine keeps.bind fun outcome after ends => ?_
  cases outcome with
  | ok value => exact ends.1 rfl
  | error cause => exact ⟨⟨cause, rfl⟩, ends.2 cause rfl⟩

theorem prepare_keeps : store.prepare.run.Keeps (onDisk current) tree
    (store.Outcome (store.Prepares current tree) (store.PartlyPrepares current tree)) := by
  unfold prepare Prepares PartlyPrepares parents
  cases store.path.parent? with
  | none => exact Prog.keeps_pure.2 rfl
  | some parent =>
      dsimp only
      cases parent.text.isEmpty with
      | true => exact Prog.keeps_pure.2 rfl
      | false =>
          refine writing_keeps (Prog.keeps_request.2 ⟨trivial, fun outcome after step => ?_⟩)
          cases outcome with
          | ok value => exact ⟨fun _ => step, nofun⟩
          | error cause => exact ⟨nofun, fun _ _ => step⟩

theorem replace_keeps : (store.replace text).run.Keeps (onDisk current) base
    (store.Outcome
      (fun after => base.replace current store.temporary store.path (Text.encode text) = .ok after)
      (fun after => after = base ∨ ∃ torn, base.write current store.temporary torn = .ok after)) := by
  have write : (store.writing (ask (.write store.temporary text))).run.Keeps (onDisk current) base
      (store.Outcome
        (fun after => base.write current store.temporary (Text.encode text) = .ok after)
        (fun after => after = base ∨ ∃ torn, base.write current store.temporary torn = .ok after)) := by
    refine writing_keeps (Prog.keeps_request.2 ⟨trivial, fun outcome after step => ?_⟩)
    cases outcome with
    | ok value => exact ⟨fun _ => step, nofun⟩
    | error cause => exact ⟨nofun, fun _ _ => step.imp_right fun ⟨torn, _, wrote⟩ => ⟨torn, wrote⟩⟩
  refine write.exceptBind ?_ fun _ _ failed => ⟨failed.1, failed.2⟩
  intro _ written wrote
  refine writing_keeps (Prog.keeps_request.2 ⟨trivial, fun outcome after step => ?_⟩)
  cases outcome with
  | ok value => exact ⟨fun _ => bind_eq_ok.2 ⟨written, wrote, step⟩, nofun⟩
  | error cause =>
      obtain rfl : after = written := step
      exact ⟨nofun, fun _ _ => .inr ⟨_, wrote⟩⟩

/-- A save does all of its steps, or fails at one of them and has done those before it. -/
theorem save_keeps : (store.save document).Keeps (onDisk current) tree
    (store.Outcome
      (fun after => ∃ base, store.Prepares current tree base ∧
        base.replace current store.temporary store.path (Text.encode document.toText) = .ok after)
      (fun after => store.PartlyPrepares current tree after ∨
        ∃ base, store.Prepares current tree base ∧
          (after = base ∨ ∃ torn, base.write current store.temporary torn = .ok after))) := by
  rw [save_eq]
  refine prepare_keeps.exceptBind ?_ ?_
  · intro _ base prepares
    refine replace_keeps.weaken fun outcome after ends => ?_
    cases outcome with
    | ok value => exact ⟨base, prepares, ends⟩
    | error error => exact ⟨ends.1, .inr ⟨base, prepares, ends.2⟩⟩
  · exact fun error after failed => ⟨failed.1, .inl failed.2⟩

theorem grownTo_of_partlyPrepares (prepares : store.PartlyPrepares current tree base) :
    tree.GrownTo current store.parents base := by
  obtain ⟨outer, inside, rfl⟩ := prepares
  exact FileTree.grownTo_ensureFirst.weaken fun _ member => inside.subset member

/-- A directory that was not there before, on the way to the file. -/
def NewDirectory (store : FileStore) (current : Place) (before after : FileTree) (place : Place) :
    Prop :=
  before.item? place = none ∧ after.item? place = some .directory ∧
    ∃ directory ∈ store.parents, after.locate current directory = .ok place

/-- The document is in the file, the temporary file is gone, and nothing else has changed, apart from
directories that were missing. -/
structure Saved (store : FileStore) (current : Place) (document : Document)
    (before after : FileTree) : Prop where
  readBack : store.held current after = .ok (some document)
  tidied : after.exists? current store.temporary = false
  others : ∀ place, after.item? place = before.item? place ∨
    after.locate current store.path = .ok place ∨
    after.locate current store.temporary = .ok place ∨ store.NewDirectory current before after place

/-- What was at the path is there as it was, if the path ends in a name. Whatever it ends in, nothing
has changed but the temporary file, apart from directories that were missing. -/
structure Spared (store : FileStore) (current : Place) (before after : FileTree) : Prop where
  stays : ∀ place, before.locate current store.path = .ok place →
    after.locate current store.path = .ok place ∧
      (store.path.fileName?.isSome → after.at? place = before.at? place)
  others : ∀ place, after.item? place = before.item? place ∨
    after.locate current store.temporary = .ok place ∨ store.NewDirectory current before after place

/-- What a tree with the directories and a later one have in common was there before, or is new. -/
theorem changed_of_grownTo (grown : tree.GrownTo current store.parents base)
    (kept : after.SameDirectories base) (same : after.item? place = base.item? place) :
    after.item? place = tree.item? place ∨ store.NewDirectory current tree after place := by
  rw [same]
  refine (grown place).imp_right ?_
  rintro ⟨free, there, directory, member, located⟩
  refine ⟨free, same.trans there, directory, member, ?_⟩
  exact FileTree.locate_mono (fun _ => (kept _).2) located

theorem length_temporary : (text ++ ".tmp").length = text.length + 4 := by
  rw [String.length_append]
  rfl

theorem temporary_ne {other : String} (short : other.length < 4) : text ++ ".tmp" ≠ other := by
  rintro rfl
  rw [length_temporary] at short
  omega

theorem plainName_temporary (plain : Path.PlainName text) : Path.PlainName (text ++ ".tmp") where
  slashless := by simpa using plain.slashless
  visible := temporary_ne (by decide)
  notHere := temporary_ne (by decide)
  notUp := temporary_ne (by decide)

theorem temporary_apart : text ++ ".tmp" ≠ text := by
  intro same
  have longer := @length_temporary text
  rw [same] at longer
  omega

theorem parts_temporary {parts : List Path.Part} (whole : store.path.parts = parts ++ [.name text]) :
    store.temporary.parts = parts ++ [.name (text ++ ".tmp")] := by
  have plain := @Path.plainName_of_mem store.path text (by simp [whole])
  rw [temporary, Path.fileName?_eq_some.2 ⟨parts, whole⟩]
  exact Path.parts_withFileName (plainName_temporary plain) whole

theorem saved_of_replace (settled : document.Settled) (whole : document.Whole)
    (grown : tree.GrownTo current store.parents base)
    (replaced : base.replace current store.temporary store.path (Text.encode document.toText) =
      .ok after) : store.Saved current document tree after := by
  obtain ⟨besideParent, besideName, parent, name, written, admits⟩ :=
    FileTree.admits_of_replace replaced
  cases replaced.symm.trans (written.replace admits)
  have located := admits.locate
  obtain ⟨parts, split, _⟩ := FileTree.reach_of_approach admits.approached
  obtain ⟨rfl, same⟩ := FileTree.same_parent split (parts_temporary split) located written.approached
  obtain ⟨rfl, -⟩ := List.append_inj' same rfl
  have kept := FileTree.sameDirectories_replaced (Text.encode document.toText) written.free admits.free
  have item : ∀ place, _ := fun place =>
    @FileTree.item?_replaced base name place parent current _ _ _ _ written admits
      (Text.encode document.toText)
  have located := (admits.congr kept).locate
  have beside := (written.congr kept).locate
  refine ⟨?_, ?_, ?_⟩
  · rw [held_of_read (FileTree.read_replaced written admits)]
    exact document?_toText_of_settled store settled whole
  · have apart : parent ++ [name ++ ".tmp"] ≠ parent ++ [name] := by simp
    have gone := item (parent ++ [name ++ ".tmp"])
    rw [if_neg apart, if_pos rfl, FileTree.item?_eq_none] at gone
    rw [FileTree.exists?, beside]
    simp [gone]
  · intro place
    by_cases here : place = parent ++ [name]
    · subst here
      exact .inr (.inl located)
    · by_cases near : place = parent ++ [name ++ ".tmp"]
      · subst near
        exact .inr (.inr (.inl beside))
      · have same := item place
        rw [if_neg here, if_neg near] at same
        exact (changed_of_grownTo grown kept same).imp_right fun new => .inr (.inr new)

theorem spared_of_write (grown : tree.GrownTo current store.parents base)
    (prepared : ∀ place, tree.locate current store.path = .ok place →
      store.path.fileName?.isSome → base = tree)
    (ends : after = base ∨ ∃ torn, base.write current store.temporary torn = .ok after) :
    store.Spared current tree after := by
  rcases ends with rfl | ⟨torn, wrote⟩
  · refine ⟨fun place located => ⟨?_, fun named => by rw [prepared place located named]⟩, ?_⟩
    · exact FileTree.locate_mono (fun _ => grown.directoryAt) located
    · exact fun place => (grown place).imp_right .inr
  · obtain ⟨parent, name, written, rfl⟩ := FileTree.admits_of_write wrote
    have kept := FileTree.sameDirectories_putFile torn written.free
    refine ⟨fun place located => ⟨?_, fun named => ?_⟩, fun place => ?_⟩
    · exact FileTree.locate_mono (fun _ inside => (kept _).2 (grown.directoryAt inside)) located
    · obtain rfl := prepared place located named
      obtain ⟨text, found⟩ := Option.isSome_iff_exists.1 named
      obtain ⟨parts, split⟩ := Path.fileName?_eq_some.1 found
      obtain ⟨rfl, rfl⟩ :=
        FileTree.same_parent split (parts_temporary split) located written.approached
      exact FileTree.at?_put_sibling temporary_apart.symm
    · by_cases near : place = parent ++ [name]
      · subst near
        exact .inr (.inl (written.congr kept).locate)
      · have same := @FileTree.item?_put base (.file torn) name place parent written.directory
          written.free fun _ => rfl
        rw [if_neg near] at same
        exact (changed_of_grownTo grown kept same).imp_right .inr

/-- Where the path can be followed to a name, the directories that lead there exist. -/
theorem isDirectory_of_parents (located : tree.locate current store.path = .ok place)
    (named : store.path.fileName?.isSome) :
    ∀ directory ∈ store.parents, tree.isDirectory current directory = true := by
  obtain ⟨text, found⟩ := Option.isSome_iff_exists.1 named
  obtain ⟨parts, split⟩ := Path.fileName?_eq_some.1 found
  obtain ⟨outer, lies, -⟩ := Path.parent?_of_parts split
  rw [parents, lies]
  exact FileTree.isDirectory_of_lineage located split lies

theorem eq_of_partlyPrepares (prepares : store.PartlyPrepares current tree base)
    (there : ∀ directory ∈ store.parents, tree.isDirectory current directory = true) :
    base = tree := by
  obtain ⟨outer, inside, rfl⟩ := prepares
  rw [FileTree.ensureFirst_of_isDirectory fun directory member =>
    there directory (inside.subset member)]

theorem partlyPrepares_of_prepares (prepares : store.Prepares current tree base) :
    store.PartlyPrepares current tree base := by
  unfold Prepares at prepares
  unfold PartlyPrepares parents
  cases lies : store.path.parent? with
  | none =>
      rw [lies] at prepares
      exact ⟨[], List.suffix_rfl, prepares⟩
  | some parent =>
      simp only [lies] at prepares
      split at prepares
      · exact ⟨[], List.nil_suffix, prepares⟩
      · rw [FileTree.makeDirectories] at prepares
        exact ⟨parent.lineage, List.suffix_rfl, by rw [prepares]⟩

/-- However far a save has come, either all of it was done, or the document is as it was. -/
theorem save_ends (settled : document.Settled) (whole : document.Whole) :
    (store.save document).Keeps (onDisk current) tree
      (store.Outcome (store.Saved current document tree) (store.Spared current tree)) := by
  refine save_keeps.weaken fun outcome after ends => ?_
  cases outcome with
  | ok value =>
      obtain ⟨base, prepares, replaced⟩ := ends
      exact saved_of_replace settled whole (grownTo_of_partlyPrepares (partlyPrepares_of_prepares prepares)) replaced
  | error error =>
      refine ⟨ends.1, ?_⟩
      rcases ends.2 with partly | ⟨base, prepares, written⟩
      · refine spared_of_write (grownTo_of_partlyPrepares partly) ?_ (.inl rfl)
        exact fun _ located named => eq_of_partlyPrepares partly (isDirectory_of_parents located named)
      · have partly := partlyPrepares_of_prepares prepares
        refine spared_of_write (grownTo_of_partlyPrepares partly) ?_ written
        exact fun _ located named => eq_of_partlyPrepares partly (isDirectory_of_parents located named)

/-- What is made of the answer to a request for the content of the file. -/
def found (store : FileStore) (answer : Except IoError (List UInt8)) :
    Except StateError (Option Document) :=
  match answer with
  | .ok content =>
    match Text.decode? content with
    | some text => store.document? text
    | none => .error (.read store.path.text .notText)
  | .error cause =>
    if cause = .notFound then .ok none else .error (.read store.path.text cause)

variable {trace : List (Event Host.signature)} {outcome : Except StateError (Option Document)}
  {result : Except StateError Document}

theorem held_eq : store.held current tree = store.found (tree.read current store.path) := rfl

/-- The file is absent or blank if nothing is stored. -/
theorem document?_eq_none : store.document? text = .ok none ↔ Text.isBlankText text = true := by
  rw [document?]
  split
  · simp [*]
  · split <;> simp [*]

/-- The file is absent or blank if nothing is stored. -/
theorem held_eq_none : store.held current tree = .ok none ↔
    tree.read current store.path = .error .notFound ∨ ∃ content text,
      tree.read current store.path = .ok content ∧ Text.decode? content = some text ∧
        Text.isBlankText text = true := by
  rw [held_eq]
  unfold found
  cases tree.read current store.path with
  | error cause => by_cases missing : cause = .notFound <;> simp [missing]
  | ok content =>
      dsimp only
      cases decoded : Text.decode? content with
      | none => simp [decoded]
      | some text => simp [document?_eq_none, decoded]

theorem read_eq (store : FileStore) :
    store.read = ask (.read store.path) >>= fun answer => pure (store.found answer) := by
  refine bind_congr fun answer => ?_
  unfold found
  cases answer with
  | ok content =>
      dsimp only
      cases Text.decode? content <;> rfl
  | error cause =>
      dsimp only
      split <;> rfl

theorem read_yields : store.read.Yields trace outcome ↔
    ∃ answer, trace = [⟨.read store.path, answer⟩] ∧ outcome = store.found answer := by
  rw [read_eq, Prog.yields_bind]
  constructor
  · rintro ⟨answer, first, _, rfl, asked, rfl, rfl⟩
    exact ⟨answer, by simpa using Prog.yields_request.1 asked, rfl⟩
  · rintro ⟨answer, rfl, rfl⟩
    exact ⟨answer, _, [], by simp, Prog.yields_request.2 rfl, rfl, rfl⟩

/-- The disk fails at reading the file. -/
def Unread (store : FileStore) (trace : List (Event Host.signature)) (error : StateError) : Prop :=
  ∃ cause, cause ≠ .notFound ∧ ⟨.read store.path, .error cause⟩ ∈ trace ∧
    error = .read store.path.text cause

/-- A reading comes to what is in the file, or to the failure of the disk. -/
def Finds (store : FileStore) (current : Place) (tree : FileTree)
    (trace : List (Event Host.signature)) (outcome : Except StateError (Option Document)) : Prop :=
  outcome = store.held current tree ∨ ∃ error, store.Unread trace error ∧ outcome = .error error

theorem Finds.mono {longer : List (Event Host.signature)}
    (finds : store.Finds current tree trace outcome) (more : trace ⊆ longer) :
    store.Finds current tree longer outcome := by
  refine finds.imp_right ?_
  rintro ⟨error, ⟨cause, missing, member, reason⟩, same⟩
  exact ⟨error, ⟨cause, missing, more member, reason⟩, same⟩

theorem read_finds (run : store.read.Yields trace outcome)
    (along : (disk current).Along tree trace after) :
    after = tree ∧ store.Finds current tree trace outcome := by
  obtain ⟨answer, rfl, rfl⟩ := read_yields.1 run
  obtain ⟨middle, ⟨rfl, answered⟩, rfl⟩ := along
  refine ⟨rfl, ?_⟩
  rcases answered with rfl | ⟨cause, missing, rfl⟩
  · exact .inl rfl
  · exact .inr ⟨_, ⟨cause, missing, by simp, rfl⟩, by simp [found, missing]⟩

/-- What a loading makes of what was read. -/
def Loads (store : FileStore) (current : Place) (tree : FileTree)
    (read : Except StateError (Option Document)) (result : Except StateError Document)
    (after : FileTree) : Prop :=
  match read with
  | .ok (some document) => result = .ok document ∧ after = tree
  | .error error => result = .error error ∧ after = tree
  | .ok none => ∃ directorId installationId,
    let document : Document := { directorId, installationId }
    (result = .ok document ∧ store.Saved current document tree after) ∨
      ∃ cause, result = .error (.write store.path.text cause) ∧ store.Spared current tree after

theorem fresh_yields {document : Document} (run : fresh.Yields trace document) :
    ∃ directorId installationId, document = { directorId, installationId } ∧
      trace = [⟨.freshId, directorId⟩, ⟨.freshId, installationId⟩] := by
  obtain ⟨directorId, _, rfl, installationId, _, rfl, rfl, rfl⟩ := run
  exact ⟨directorId, installationId, rfl, rfl⟩

theorem load_loads (run : store.load.Yields trace result)
    (along : (disk current).Along tree trace after) :
    ∃ read, store.Finds current tree trace read ∧
      store.Loads current tree read result after := by
  obtain ⟨read, first, rest, rfl, start, goesOn⟩ := Prog.yields_bind.1 run
  obtain ⟨middle, early, late⟩ := Conduct.along_append.1 along
  obtain ⟨rfl, finds⟩ := read_finds start early
  refine ⟨read, finds.mono fun _ member => List.mem_append_left rest member, ?_⟩
  rcases read with error | _ | document
  · obtain ⟨rfl, rfl⟩ := Prog.yields_pure.1 goesOn
    exact ⟨rfl, late⟩
  · obtain ⟨document, names, more, rfl, naming, writes⟩ := Prog.yields_bind.1 goesOn
    obtain ⟨again, named, later⟩ := Conduct.along_append.1 late
    obtain ⟨directorId, installationId, rfl, rfl⟩ := fresh_yields naming
    obtain ⟨_, rfl, _, rfl, rfl⟩ := named
    obtain ⟨saved, saving, last, rfl, saves, ends⟩ := Prog.yields_bind.1 writes
    obtain ⟨reached, during, afterwards⟩ := Conduct.along_append.1 later
    have outcome := (save_ends blank_settled (by simp [Document.Whole])).ends saves during
    refine ⟨directorId, installationId, ?_⟩
    cases saved with
    | ok value =>
        obtain ⟨rfl, rfl⟩ := Prog.yields_pure.1 ends
        obtain rfl : after = reached := afterwards
        exact .inl ⟨rfl, outcome⟩
    | error error =>
        obtain ⟨rfl, rfl⟩ := Prog.yields_pure.1 ends
        obtain rfl : after = reached := afterwards
        obtain ⟨⟨cause, rfl⟩, spared⟩ := outcome
        exact .inr ⟨cause, rfl, spared⟩
  · obtain ⟨rfl, rfl⟩ := Prog.yields_pure.1 goesOn
    exact ⟨rfl, late⟩

/-- A document that is stored is what is loaded, and stays as it is. -/
theorem load_stored (holds : store.held current tree = .ok (some document))
    (run : store.load.Yields trace result) (along : (disk current).Along tree trace after) :
    after = tree ∧ (result = .ok document ∨ ∃ error, store.Unread trace error ∧
      result = .error error) := by
  obtain ⟨read, rfl | ⟨error, unread, rfl⟩, loads⟩ := load_loads run along
  · rw [holds] at loads
    exact ⟨loads.2, .inl loads.1⟩
  · exact ⟨loads.2, .inr ⟨error, unread, loads.1⟩⟩

/-- What was loaded is stored. -/
theorem held_of_load (run : store.load.Yields trace (.ok document))
    (along : (disk current).Along tree trace after) :
    store.held current after = .ok (some document) := by
  obtain ⟨read, rfl | ⟨error, unread, rfl⟩, loads⟩ := load_loads run along
  · rcases holds : store.held current tree with error | _ | stored <;> rw [holds] at loads
    · cases loads.1
    · obtain ⟨_, _, ⟨same, saved⟩ | ⟨_, failed, _⟩⟩ := loads
      · cases same
        exact saved.readBack
      · cases failed
    · obtain ⟨same, rfl⟩ := loads
      cases same
      exact holds
  · cases loads.1

/-- The tree is changed for a fresh document alone. -/
theorem held_of_changed (run : store.load.Yields trace result)
    (along : (disk current).Along tree trace after) (changed : after ≠ tree) :
    store.held current tree = .ok none := by
  obtain ⟨read, rfl | ⟨error, unread, rfl⟩, loads⟩ := load_loads run along
  · rcases holds : store.held current tree with error | _ | stored
    · rw [holds] at loads
      exact absurd loads.2 changed
    · rfl
    · rw [holds] at loads
      exact absurd loads.2 changed
  · exact absurd loads.2 changed

/-- A save replaces the document or leaves it alone, whatever is in the tree and wherever the disk
fails. A load changes nothing unless the file is absent or blank, and what it has answered is what
every load answers from then on. -/
theorem document_replaced_or_left (store : FileStore) (current : Place) (tree : FileTree) :
    (∀ (document : Document) trace result after, document.Settled → document.Whole →
      (store.save document).Yields trace result → (disk current).Along tree trace after →
        (result = .ok () ∧ store.Saved current document tree after) ∨
          ∃ cause, result = .error (.write store.path.text cause) ∧
            store.Spared current tree after) ∧
    (∀ trace outcome after, store.read.Yields trace outcome →
      (disk current).Along tree trace after →
        after = tree ∧ store.Finds current tree trace outcome) ∧
    (store.held current tree = .ok none ↔
      tree.read current store.path = .error .notFound ∨ ∃ content text,
        tree.read current store.path = .ok content ∧ Text.decode? content = some text ∧
          Text.isBlankText text = true) ∧
    ∀ trace result after, store.load.Yields trace result → (disk current).Along tree trace after →
      (∃ read, store.Finds current tree trace read ∧
        store.Loads current tree read result after) ∧
      (after ≠ tree → store.held current tree = .ok none) ∧
      ∀ document, result = .ok document → store.held current after = .ok (some document) ∧
        ∀ later again last, store.load.Yields later again → (disk current).Along after later last →
          last = after ∧ (again = .ok document ∨
            ∃ error, store.Unread later error ∧ again = .error error) := by
  refine ⟨?_, fun trace outcome after => read_finds, held_eq_none, ?_⟩
  · intro document trace result after settled whole run along
    have ends := (save_ends settled whole).ends run along
    cases result with
    | ok value => exact .inl ⟨rfl, ends⟩
    | error error =>
        obtain ⟨⟨cause, rfl⟩, spared⟩ := ends
        exact .inr ⟨cause, rfl, spared⟩
  · intro trace result after run along
    refine ⟨load_loads run along, held_of_changed run along, ?_⟩
    rintro document rfl
    have holds := held_of_load run along
    exact ⟨holds, fun later again last => load_stored holds⟩

theorem load_refused {name : Nat → String} {machine : Machine} {error : StateError}
    (holds : store.held machine.current machine.files = .error error) :
    store.load.perform (Machine.answer name) machine = (.error error, machine) := by
  rw [load, Prog.perform_bind read_perform, holds]
  rfl

/-- A path without a name, on a machine where it leads to a directory. -/
def unnamed : FileStore := ⟨⟨"a/.."⟩⟩

def machineOfUnnamed : Machine := { files := .directory [("a", .directory [])] }

/-- A directory at the path of the document gets the temporary file, if the path has no name. -/
theorem unnamed_directory_changed : ∃ trace cause after,
    (unnamed.save {}).Yields trace (.error (.write unnamed.path.text cause)) ∧
      (disk machineOfUnnamed.current).Along machineOfUnnamed.files trace after ∧
      machineOfUnnamed.files.locate machineOfUnnamed.current unnamed.path = .ok [] ∧
      after.at? [] ≠ machineOfUnnamed.files.at? [] := by
  have failed : ((unnamed.save {}).perform (Machine.answer fun _ => "") machineOfUnnamed).1 =
      .error (.write unnamed.path.text .busy) := by decide +kernel
  have new : ((unnamed.save {}).perform (Machine.answer fun _ => "")
      machineOfUnnamed).2.files.exists? [] ⟨".tmp"⟩ = true := by decide +kernel
  have missing : machineOfUnnamed.files.exists? [] ⟨".tmp"⟩ = false := by decide +kernel
  obtain ⟨trace, run, along⟩ := exists_run_on_machine failed
  refine ⟨trace, .busy, _, run, along, by decide +kernel, fun same => ?_⟩
  rw [Option.some.inj same, missing] at new
  cases new

/-- A machine with something in the way of the temporary file, and with a document that is corrupt. -/
def machineWithObstacle : Machine :=
  { files := .directory [("d", .directory [("state.json.tmp", .directory []),
      ("state.json", .file [0x7b])])] }

def nested : FileStore := ⟨⟨"d/state.json"⟩⟩

theorem corrupt_document_kept :
    (∃ trace cause after, (nested.save {}).Yields trace (.error (.write nested.path.text cause)) ∧
      (disk []).Along machineWithObstacle.files trace after ∧
      nested.Spared [] machineWithObstacle.files after ∧ nested.path.fileName?.isSome) ∧
    (∃ trace, nested.load.Yields trace (.error (.parse nested.path.text jsonReason)) ∧
      (disk []).Along machineWithObstacle.files trace machineWithObstacle.files) ∧
    ∃ trace after, (nested.save {}).Yields trace (.ok ()) ∧
      (disk []).Along (.directory []) trace after ∧ nested.Saved [] {} (.directory []) after := by
  have settled : ({} : Document).Settled := blank_settled
  have whole : ({} : Document).Whole := by simp [Document.Whole]
  obtain ⟨ends, -, -, loads⟩ := document_replaced_or_left nested [] machineWithObstacle.files
  obtain ⟨ends', -⟩ := document_replaced_or_left nested [] (.directory [])
  refine ⟨?_, ?_, ?_⟩
  · have failed : ((nested.save {}).perform (Machine.answer fun _ => "") machineWithObstacle).1 =
        .error (.write nested.path.text .isADirectory) := by decide +kernel
    obtain ⟨trace, run, along⟩ := exists_run_on_machine failed
    rcases ends {} _ _ _ settled whole run along with ⟨succeeded, _⟩ | ⟨cause, _, spared⟩
    · cases succeeded
    · exact ⟨trace, _, _, run, along, spared, by decide +kernel⟩
  · have corrupt : (nested.held [] machineWithObstacle.files).map (fun _ => ()) =
        .error (.parse nested.path.text jsonReason) := by decide +kernel
    rcases holds : nested.held [] machineWithObstacle.files with error | stored
    · rw [holds] at corrupt
      cases corrupt
      have refused := @load_refused nested (fun _ => "") machineWithObstacle _ holds
      obtain ⟨trace, run, along⟩ := exists_run_on_machine (congrArg Prod.fst refused)
      obtain ⟨-, changed, -⟩ := loads _ _ _ run along
      have same := Classical.byContradiction fun other => by
        cases holds.symm.trans (changed other)
      exact ⟨trace, run, same ▸ along⟩
    · rw [holds] at corrupt
      cases corrupt
  · have done : ((nested.save {}).perform (Machine.answer fun _ => "") {}).1 = .ok () := by
      decide +kernel
    obtain ⟨trace, run, along⟩ := exists_run_on_machine done
    rcases ends' {} _ _ _ settled whole run along with ⟨_, saved⟩ | ⟨cause, failed, _⟩
    · exact ⟨trace, _, run, along, saved⟩
    · cases failed

end FileStore

end DeploymentLifecycle
