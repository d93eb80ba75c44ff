import DeploymentLifecycle.Proofs.Config.Discovery
import DeploymentLifecycle.Proofs.Config.Pasted
import DeploymentLifecycle.Proofs.FileTree.Frame

namespace DeploymentLifecycle.Config

/-! What a first configuration file is read back as. Its name and its command stand in it without
quotes, so they have to be texts that stand for themselves. -/

open Host (ask)
open FileTree (Place)
open Yaml (isPlainText)

variable {name : Nat → String} {machine after : Machine} {directory : Path}
  {deployment cpi : Option String} {force : Bool}

/-- What a first file holds. -/
def initialText (deployment cpi : Option String) : String :=
  template (deployment.getD "bosun") (cpi.getD standardCpi)

theorem init_eq : init directory deployment cpi force =
    ask (.isPresent (directory.join fileName)) >>= fun present =>
      if present && !force then pure (.error (.alreadyExists (directory.join fileName)))
      else if isPlainName (deployment.getD "bosun") then
        ask (.write (directory.join fileName) (initialText deployment cpi)) >>= fun outcome =>
          pure (outcome.mapError .io)
      else pure (.error
        (.invalid ("invalid deployment name: '" ++ deployment.getD "bosun" ++ "'"))) := rfl

/-- A first file is written only for a name without blanks. -/
theorem written_of_init
    (done : (init directory deployment cpi force).perform (Machine.answer name) machine =
      (.ok (), after)) :
    isPlainName (deployment.getD "bosun") = true ∧ ∃ files,
      machine.files.write machine.current (directory.join fileName)
        (Text.encode (initialText deployment cpi)) = .ok files ∧ after = { machine with files } := by
  rw [init_eq, Prog.perform_bind (isPresent_perform rfl)] at done
  split at done
  · cases done
  · split at done
    · next plain =>
      have asked : (ask (.write (directory.join fileName) (initialText deployment cpi))).perform
          (Machine.answer name) machine = machine.changeFiles (machine.files.write machine.current
            (directory.join fileName) (Text.encode (initialText deployment cpi))) := rfl
      cases wrote : machine.files.write machine.current (directory.join fileName)
          (Text.encode (initialText deployment cpi)) with
      | error cause =>
          rw [wrote] at asked
          rw [Prog.perform_bind asked] at done
          cases done
      | ok files =>
          rw [wrote] at asked
          rw [Prog.perform_bind asked] at done
          cases done
          exact ⟨plain, files, rfl, rfl⟩
    · cases done

/-- The file that was written is the only thing that changes, and the first candidate. -/
theorem discover_written {files : FileTree}
    (wrote : machine.files.write machine.current (directory.join fileName)
      (Text.encode (initialText deployment cpi)) = .ok files) :
    (∃ place, files.locate machine.current (directory.join fileName) = .ok place ∧
      ∀ other, other ≠ place → files.item? other = machine.files.item? other) ∧
    (discover directory).perform (Machine.answer name) { machine with files } =
      ((ofYaml (initialText deployment cpi)).map fun config =>
        ⟨config, baseOf (directory.join fileName)⟩, { machine with files }) := by
  obtain ⟨parent, last, admits, whole⟩ := FileTree.admits_of_write wrote
  have still : files.Admits machine.current (directory.join fileName) parent last := by
    rw [whole]
    exact admits.congr (FileTree.sameDirectories_putFile _ admits.free)
  have held : files.at? (parent ++ [last]) =
      some (.file (Text.encode (initialText deployment cpi))) := by
    rw [whole]
    exact FileTree.at?_put_self admits.directory
  refine ⟨⟨parent ++ [last], still.locate, fun other apart => ?_⟩, ?_⟩
  · rw [whole, FileTree.item?_put admits.directory admits.free fun _ => rfl, if_neg apart]
  · have present : IsPresent { machine with files } (directory.join fileName) := by
      rw [IsPresent, FileTree.exists?, still.locate]
      simp [held]
    have read : inFile { machine with files } (directory.join fileName) =
        ofYaml (initialText deployment cpi) :=
      inFile_of_encode (by rw [still.read held]; rfl)
    rw [discover, candidates, List.map_cons, loadFirst_present present, load_perform, read]

/-- A first file can be written where a file can, and none is yet. -/
theorem init_of_admits {parent : Place} {last : String}
    (admits : machine.files.Admits machine.current (directory.join fileName) parent last)
    (free : machine.files.at? (parent ++ [last]) = none)
    (plain : isPlainName (deployment.getD "bosun") = true) : ∃ after,
    (init directory deployment cpi force).perform (Machine.answer name) machine =
      (.ok (), after) := by
  have absent : machine.files.exists? machine.current (directory.join fileName) = false := by
    rw [FileTree.exists?, admits.locate]
    simp [free]
  have asked : (ask (.write (directory.join fileName) (initialText deployment cpi))).perform
      (Machine.answer name) machine = machine.changeFiles (machine.files.write machine.current
        (directory.join fileName) (Text.encode (initialText deployment cpi))) := rfl
  rw [admits.write] at asked
  rw [init_eq, Prog.perform_bind (isPresent_perform absent), Bool.false_and,
    if_neg Bool.false_ne_true, if_pos plain, Prog.perform_bind asked]
  exact ⟨_, rfl⟩

/-- A machine with no files. -/
def emptyMachine : Machine := {}

theorem init_empty (plain : isPlainName (deployment.getD "bosun") = true) : ∃ after,
    (init ⟨""⟩ deployment cpi false).perform (Machine.answer fun _ => "") emptyMachine =
      (.ok (), after) := by
  have admits : emptyMachine.files.Admits emptyMachine.current ((Path.mk "").join fileName) []
      "bosun.yml" :=
    ⟨rfl, rfl, by decide, by simp [emptyMachine]⟩
  exact init_of_admits admits rfl plain

theorem exists_loaded_iff {read : Except ConfigError Config} {base : Path} {config : Config} :
    (∃ loaded : LoadedConfig, (read.map fun config => ⟨config, base⟩) = .ok loaded ∧
      loaded.config = config) ↔ read = .ok config := by
  cases read with
  | error error =>
      constructor
      · rintro ⟨loaded, failed, _⟩
        cases failed
      · intro failed
        cases failed
  | ok found =>
      constructor
      · rintro ⟨loaded, same, meant⟩
        cases same
        exact congrArg Except.ok meant
      · intro same
        cases same
        exact ⟨_, rfl, rfl⟩

theorem initial_file_read_back_iff (name : Nat → String) (machine after : Machine) (directory : Path)
    (deployment cpi : Option String) (force : Bool)
    (done : (init directory deployment cpi force).perform (Machine.answer name) machine =
      (.ok (), after)) :
    let found := (discover directory).perform (Machine.answer name) after
    found.2 = after ∧ after = { machine with files := after.files } ∧
    (∃ place, after.files.locate after.current (directory.join fileName) = .ok place ∧
      ∀ other, other ≠ place → after.files.item? other = machine.files.item? other) ∧
    ((∃ loaded, found.1 = .ok loaded ∧
        loaded.config = templateConfig (deployment.getD "bosun") (cpi.getD standardCpi)) ↔
      isPlainText (deployment.getD "bosun") ∧ isPlainText (cpi.getD standardCpi)) := by
  obtain ⟨plain, files, wrote, rfl⟩ := written_of_init done
  obtain ⟨frame, found⟩ := @discover_written name machine directory deployment cpi files wrote
  rw [found]
  have means : ofYaml (initialText deployment cpi) =
      .ok (templateConfig (deployment.getD "bosun") (cpi.getD standardCpi)) ↔
        isPlainText (deployment.getD "bosun") ∧ isPlainText (cpi.getD standardCpi) :=
    ofYaml_template_iff plain
  refine ⟨rfl, rfl, frame, ?_⟩
  dsimp only
  rw [exists_loaded_iff, means]

theorem standard_file_read_back : ∃ after loaded,
    (init ⟨""⟩ none none false).perform (Machine.answer fun _ => "") emptyMachine = (.ok (), after) ∧
    (discover ⟨""⟩).perform (Machine.answer fun _ => "") after = (.ok loaded, after) ∧
    loaded.config = templateConfig "bosun" "/usr/local/bin/cpi" := by
  obtain ⟨after, done⟩ := @init_empty none none (by decide)
  obtain ⟨same, -, -, reads⟩ :=
    initial_file_read_back_iff (fun _ => "") emptyMachine after ⟨""⟩ none none false done
  obtain ⟨loaded, found, config⟩ := reads.2 ⟨by decide +kernel, by decide +kernel⟩
  exact ⟨after, loaded, done, Prod.ext found same, config⟩

/-- Quotes around a name are read as quotes and not as parts of the name. -/
theorem ofYaml_quoted : ∃ config, ofYaml (template "'dev'" standardCpi) = .ok config ∧
    config.deployment = "dev" := by
  have read : ((Yaml.tokens? (template "'dev'" standardCpi)).bind fun tokens =>
      (Yaml.Parsing.document? tokens).bind fun node => (node.read? ofNode).map fun config =>
        (config.deployment, config.validate.toOption)) = some ("dev", some ()) := by
    rw [Yaml.tokens?, template_eq, Yaml.Lexing.toList_textOf]
    decide +kernel
  obtain ⟨tokens, lexed, read⟩ := Option.bind_eq_some_iff.1 read
  obtain ⟨node, parsed, read⟩ := Option.bind_eq_some_iff.1 read
  obtain ⟨config, taken, same⟩ := Option.map_eq_some_iff.1 read
  obtain ⟨named, valid⟩ := Prod.ext_iff.1 same
  refine ⟨config, ?_, named⟩
  rw [ofYaml, Yaml.ofText?_of_tokens lexed parsed, Option.bind_some, taken]
  cases accepted : config.validate with
  | error error =>
      rw [accepted] at valid
      cases valid
  | ok => exact congrArg (Except.map fun _ => config) accepted

theorem quoted_name_changed : ∃ after loaded,
    (init ⟨""⟩ (some "'dev'") none false).perform (Machine.answer fun _ => "") emptyMachine =
      (.ok (), after) ∧
    (discover ⟨""⟩).perform (Machine.answer fun _ => "") after = (.ok loaded, after) ∧
    loaded.config.deployment ≠ "'dev'" := by
  obtain ⟨after, done⟩ := @init_empty (some "'dev'") none (by decide)
  obtain ⟨-, files, wrote, rfl⟩ := written_of_init done
  obtain ⟨config, read, named⟩ := ofYaml_quoted
  have found := (@discover_written (fun _ => "") _ _ _ _ _ wrote).2
  rw [show initialText (some "'dev'") none = template "'dev'" standardCpi from rfl, read] at found
  exact ⟨_, _, done, found, by simp [named]⟩

end DeploymentLifecycle.Config
