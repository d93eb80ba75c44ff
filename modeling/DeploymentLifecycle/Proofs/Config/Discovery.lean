import DeploymentLifecycle.Config.Load
import DeploymentLifecycle.Machine
import DeploymentLifecycle.Proofs.Path.Parts
import DeploymentLifecycle.Proofs.Perform
import DeploymentLifecycle.Proofs.Text.Utf8

namespace DeploymentLifecycle

/-! Which configuration of a directory is loaded, and what its paths start from. They start from the
directory itself, unless this is named as the hidden one and has a configuration right inside it. -/

namespace Path

variable {path : Path} {text : String}

theorem endsWith_iff : path.endsWith text ↔ path.parts.getLast? = some (.name text) := by
  rw [endsWith, beq_iff_eq]

end Path

namespace Config

open Host (ask)
open DeploymentLifecycle.Path (Part)

variable {name : Nat → String} {machine : Machine} {path directory candidate file : Path}
  {text : String} {inside : List Part} {earlier later : List Path} {config : Config}

/-- The configuration in a file of a machine. -/
def inFile (machine : Machine) (path : Path) : Except ConfigError Config :=
  match machine.files.read machine.current path with
  | .ok bytes => ofBytes bytes
  | .error cause => .error (.io cause)

def IsPresent (machine : Machine) (path : Path) : Prop :=
  machine.files.exists? machine.current path = true

instance : Decidable (IsPresent machine path) := inferInstanceAs (Decidable (_ = true))

theorem load_perform : (load path).perform (Machine.answer name) machine =
    ((inFile machine path).map fun config => ⟨config, baseOf path⟩, machine) := by
  have asked : (ask (.read path)).perform (Machine.answer name) machine =
      (machine.files.read machine.current path, machine) := rfl
  rw [load, Prog.perform_bind asked, inFile]
  cases machine.files.read machine.current path <;> rfl

section Candidates

variable {rest : List Path}

theorem loadFirst_cons : loadFirst directory (path :: rest) =
    ask (.isPresent path) >>= fun present =>
      if present then load path else loadFirst directory rest := rfl

theorem isPresent_perform {present : Bool}
    (found : machine.files.exists? machine.current path = present) :
    (ask (.isPresent path)).perform (Machine.answer name) machine = (present, machine) :=
  congrArg (·, machine) found

theorem loadFirst_present (present : IsPresent machine path) :
    (loadFirst directory (path :: rest)).perform (Machine.answer name) machine =
      (load path).perform (Machine.answer name) machine := by
  rw [loadFirst_cons, Prog.perform_bind (isPresent_perform present)]
  rfl

theorem loadFirst_missing (missing : ¬ IsPresent machine path) :
    (loadFirst directory (path :: rest)).perform (Machine.answer name) machine =
      (loadFirst directory rest).perform (Machine.answer name) machine := by
  rw [loadFirst_cons, Prog.perform_bind (isPresent_perform (Bool.eq_false_iff.2 missing))]
  rfl

end Candidates

/-- Nothing that comes before the first candidate that exists counts, and nothing after it. -/
theorem loadFirst_of_present (absent : ∀ path ∈ earlier, ¬ IsPresent machine path)
    (present : IsPresent machine candidate) :
    (loadFirst directory (earlier ++ candidate :: later)).perform (Machine.answer name) machine =
      (load candidate).perform (Machine.answer name) machine := by
  induction earlier with
  | nil => exact loadFirst_present present
  | cons path earlier ih =>
      obtain ⟨missing, absent⟩ := List.forall_mem_cons.1 absent
      exact (loadFirst_missing missing).trans (ih absent)

theorem loadFirst_of_absent (absent : ∀ path ∈ earlier, ¬ IsPresent machine path) :
    (loadFirst directory earlier).perform (Machine.answer name) machine =
      (.error (.notFound directory), machine) := by
  induction earlier with
  | nil => rfl
  | cons path earlier ih =>
      obtain ⟨missing, absent⟩ := List.forall_mem_cons.1 absent
      exact (loadFirst_missing missing).trans (ih absent)

theorem validate_ne_notFound : config.validate ≠ .error (.notFound path) := by
  rw [validate]
  repeat' split
  all_goals nofun

/-- A file that is there is not reported as missing, whatever is wrong with it. -/
theorem inFile_ne_notFound : inFile machine path ≠ .error (.notFound directory) := by
  rw [inFile]
  split
  · next bytes read =>
    rw [ofBytes]
    split
    · next text decoded =>
      rw [ofYaml]
      split
      · next config parsed =>
        cases valid : config.validate with
        | error error =>
            intro same
            cases same
            exact validate_ne_notFound valid
        | ok => nofun
      · nofun
    · nofun
  · nofun

/-- The paths of a configuration start from the directory that its file lies in, or from the one
around that if it is named as the hidden one. -/
theorem parts_baseOf (whole : path.parts = inside ++ [.name text]) :
    (baseOf path).parts =
      if inside.getLast? = some (.name hiddenDirectory) then inside.dropLast else inside := by
  obtain ⟨outer, found, rfl⟩ := Path.parent?_of_parts whole
  rw [baseOf, found, Option.getD_some]
  by_cases hidden : outer.endsWith hiddenDirectory
  · have last := Path.endsWith_iff.1 hidden
    obtain ⟨around, ends⟩ := List.getLast?_eq_some_iff.1 last
    obtain ⟨outside, found, rfl⟩ := Path.parent?_of_parts ends
    rw [if_pos hidden, if_pos last, found, Option.getD_some, ends, List.dropLast_concat]
  · rw [if_neg hidden, if_neg (mt Path.endsWith_iff.2 hidden)]

theorem parts_baseOf_visible (relative : ¬ file.isAbsolute) (plain : file.parts = file.addedParts)
    (single : file.addedParts = [.name text]) : (baseOf (directory.join file)).parts =
      if directory.endsWith hiddenDirectory then directory.parts.dropLast else directory.parts := by
  have whole : (directory.join file).parts = directory.parts ++ [.name text] := by
    rw [Path.parts_join_plain relative plain, single]
  simp only [parts_baseOf whole, Path.endsWith_iff]

theorem parts_baseOf_hidden :
    (baseOf (directory.join hiddenFileName)).parts = directory.parts := by
  have whole : (directory.join hiddenFileName).parts =
      directory.parts ++ [.name hiddenDirectory] ++ [.name "config.yml"] := by
    rw [Path.parts_join_plain (by decide) rfl, List.append_assoc]
    rfl
  rw [parts_baseOf whole]
  simp

/-- Where the state document lies, seen from the directory that paths start from. -/
def stateName (config : Config) : Path :=
  config.stateFile.getD ⟨config.deployment ++ "-state.json"⟩

theorem statePath_eq (loaded : LoadedConfig) :
    loaded.statePath = loaded.directory.join loaded.config.stateName := by
  rw [LoadedConfig.statePath, stateName]
  cases loaded.config.stateFile <;> rfl

/-- The paths of a loaded configuration start from a directory: so do a state document that is named
for the deployment, and one that is configured, unless their paths are absolute. -/
structure Anchored (loaded : LoadedConfig) (directory : Path) : Prop where
  start : loaded.directory.parts = directory.parts
  standard : loaded.config.stateFile = none → loaded.statePath.parts =
    (directory.join ⟨loaded.config.deployment ++ "-state.json"⟩).parts
  configured : ∀ path, loaded.config.stateFile = some path →
    loaded.statePath.parts = (directory.join path).parts
  below : ¬ loaded.config.stateName.isAbsolute → directory.parts <+: loaded.statePath.parts

theorem anchored_iff {loaded : LoadedConfig} :
    Anchored loaded directory ↔ loaded.directory.parts = directory.parts := by
  refine ⟨Anchored.start, fun same => ?_⟩
  have state : loaded.statePath.parts = (directory.join loaded.config.stateName).parts := by
    rw [statePath_eq, Path.parts_join_congr same]
  refine ⟨same, fun none => ?_, fun path some => ?_, fun relative => ?_⟩
  · rw [state, stateName, none, Option.getD_none]
  · rw [state, stateName, some, Option.getD_some]
  · rw [state]
    exact Path.prefix_join relative

theorem anchored_visible (relative : ¬ file.isAbsolute) (plain : file.parts = file.addedParts)
    (single : file.addedParts = [.name text]) :
    Anchored ⟨config, baseOf (directory.join file)⟩ directory ↔
      (directory.endsWith hiddenDirectory → directory.join file = directory.join hiddenFileName) := by
  rw [anchored_iff, parts_baseOf_visible relative plain single]
  split
  · next hidden =>
    have different : directory.parts.dropLast ≠ directory.parts := by
      intro same
      obtain ⟨around, whole⟩ := List.getLast?_eq_some_iff.1 (Path.endsWith_iff.1 hidden)
      rw [whole, List.dropLast_concat] at same
      exact List.cons_ne_nil _ _ (List.append_right_eq_self.1 same.symm)
    refine iff_of_false different fun same => ?_
    have longer := congrArg Path.parts (same hidden)
    rw [Path.parts_join_plain relative plain, single,
      Path.parts_join_plain (by decide) rfl] at longer
    have one : [Part.name text] = [.name hiddenDirectory, .name "config.yml"] :=
      List.append_cancel_left longer
    simp at one
  · next visible => exact iff_of_true rfl fun hidden => absurd hidden visible

theorem first_or_none (directory : Path) (machine : Machine) :
    (∀ path ∈ candidates directory, ¬ IsPresent machine path) ∨
      ∃ earlier candidate later, candidates directory = earlier ++ candidate :: later ∧
        (∀ path ∈ earlier, ¬ IsPresent machine path) ∧ IsPresent machine candidate := by
  cases search : (candidates directory).find? (machine.files.exists? machine.current) with
  | none => exact .inl (List.find?_eq_none.1 search)
  | some candidate =>
      obtain ⟨present, earlier, later, split, absent⟩ := List.find?_eq_some_iff_append.1 search
      exact .inr ⟨earlier, candidate, later, split, by simpa [IsPresent] using absent, present⟩

theorem anchored_candidate (member : candidate ∈ candidates directory) :
    Anchored ⟨config, baseOf candidate⟩ directory ↔
      (directory.endsWith hiddenDirectory → candidate = directory.join hiddenFileName) := by
  simp only [candidates, List.map_cons, List.map_nil, List.mem_cons, List.not_mem_nil,
    or_false] at member
  rcases member with rfl | rfl | rfl
  · exact anchored_visible (by decide) rfl rfl
  · exact anchored_visible (by decide) rfl rfl
  · exact iff_of_true (anchored_iff.2 parts_baseOf_hidden) fun _ => rfl

theorem discover_first (split : candidates directory = earlier ++ candidate :: later)
    (absent : ∀ path ∈ earlier, ¬ IsPresent machine path) (present : IsPresent machine candidate) :
    (discover directory).perform (Machine.answer name) machine =
      ((inFile machine candidate).map fun config => ⟨config, baseOf candidate⟩, machine) := by
  rw [discover, split, loadFirst_of_present absent present, load_perform]

theorem discover_none (absent : ∀ path ∈ candidates directory, ¬ IsPresent machine path) :
    (discover directory).perform (Machine.answer name) machine =
      (.error (.notFound directory), machine) :=
  loadFirst_of_absent absent

theorem discover_frame : ((discover directory).perform (Machine.answer name) machine).2 =
    machine := by
  rcases first_or_none directory machine with absent | ⟨_, _, _, split, absent, present⟩
  · rw [discover_none absent]
  · rw [discover_first split absent present]

theorem discover_notFound_iff {missing : Path} :
    ((discover directory).perform (Machine.answer name) machine).1 = .error (.notFound missing) ↔
      missing = directory ∧ ∀ path ∈ candidates directory, ¬ IsPresent machine path := by
  constructor
  · intro lost
    rcases first_or_none directory machine with absent | ⟨_, candidate, _, split, absent, present⟩
    · rw [discover_none absent] at lost
      cases lost
      exact ⟨rfl, absent⟩
    · rw [discover_first split absent present] at lost
      cases read : inFile machine candidate with
      | error error =>
          rw [read] at lost
          cases lost
          exact absurd read inFile_ne_notFound
      | ok config =>
          rw [read] at lost
          cases lost
  · intro lost
    obtain ⟨rfl, absent⟩ := lost
    rw [discover_none absent]

/-- The first candidate that exists is loaded, and nothing else counts. The paths of what is loaded
start from the directory exactly if this is not named as the hidden one, or has its configuration in
a hidden one of its own. -/
theorem discovery_anchored_iff (name : Nat → String) (machine : Machine) (directory : Path) :
    let found := (discover directory).perform (Machine.answer name) machine
    found.2 = machine ∧
    (∀ missing, found.1 = .error (.notFound missing) ↔
      missing = directory ∧ ∀ path ∈ candidates directory, ¬ IsPresent machine path) ∧
    ∀ earlier candidate later, candidates directory = earlier ++ candidate :: later →
      (∀ path ∈ earlier, ¬ IsPresent machine path) → IsPresent machine candidate →
        (∀ error, inFile machine candidate = .error error → found.1 = .error error) ∧
        ∀ config, inFile machine candidate = .ok config →
          ∃ loaded, found.1 = .ok loaded ∧ loaded.config = config ∧
            (Anchored loaded directory ↔
              (directory.endsWith hiddenDirectory →
                candidate = directory.join hiddenFileName)) := by
  intro found
  refine ⟨discover_frame, fun missing => discover_notFound_iff, ?_⟩
  intro earlier candidate later split absent present
  have first : found = ((inFile machine candidate).map fun config => ⟨config, baseOf candidate⟩,
      machine) := discover_first split absent present
  have member : candidate ∈ candidates directory := by simp [split]
  constructor
  · intro error failed
    rw [first, failed]
    rfl
  · intro config read
    refine ⟨⟨config, baseOf candidate⟩, ?_, rfl, anchored_candidate member⟩
    rw [first, read]
    rfl

/-- A configuration with nothing but what is demanded. -/
def leastYaml : String := "\x7bcpi: \x7bcommand: c\x7d, agent: \x7burl: u\x7d\x7d"

theorem exists_least : ∃ config, ofYaml leastYaml = .ok config ∧ config.stateFile = none ∧
    config.deployment = "bosun" := by
  have read : (ofYaml leastYaml).toOption.map (fun config => (config.stateFile, config.deployment)) =
      some (none, "bosun") := by decide +kernel
  cases parsed : ofYaml leastYaml with
  | error error =>
      rw [parsed] at read
      cases read
  | ok config =>
      rw [parsed] at read
      exact ⟨config, rfl, congrArg Prod.fst (Option.some.inj read),
        congrArg Prod.snd (Option.some.inj read)⟩

theorem inFile_of_encode {text : String} (held :
    (machine.files.read machine.current path).toOption = some (Text.encode text)) :
    inFile machine path = ofYaml text := by
  rw [inFile]
  cases read : machine.files.read machine.current path with
  | error cause =>
      rw [read] at held
      cases held
  | ok bytes =>
      rw [read] at held
      obtain rfl := Option.some.inj held
      simp only [ofBytes, Text.decode?_encode]

/-- A directory with the name of the hidden one. -/
def namesake : Path := ⟨hiddenDirectory⟩

/-- The least configuration lies right inside the namesake of the hidden directory. -/
def machineWithVisible : Machine :=
  { files := .directory
      [(".bosun", .directory [("bosun.yml", .file (Text.encode leastYaml))])] }

/-- The paths of a configuration right inside such a directory start from the directory around it. -/
theorem namesake_misleads : ∃ loaded,
    (discover namesake).perform (Machine.answer fun _ => "") machineWithVisible =
      (.ok loaded, machineWithVisible) ∧
    IsPresent machineWithVisible (namesake.join fileName) ∧ loaded.config.stateFile = none ∧
    loaded.directory.parts ≠ namesake.parts ∧ loaded.statePath.parts ≠
      (namesake.join ⟨loaded.config.deployment ++ "-state.json"⟩).parts := by
  obtain ⟨config, read, unset, named⟩ := exists_least
  have present : IsPresent machineWithVisible (namesake.join fileName) := by decide +kernel
  have held : inFile machineWithVisible (namesake.join fileName) = .ok config :=
    (inFile_of_encode (by decide +kernel)).trans read
  have found : (discover namesake).perform (Machine.answer fun _ => "") machineWithVisible =
      (.ok ⟨config, baseOf (namesake.join fileName)⟩, machineWithVisible) := by
    rw [discover, candidates, List.map_cons, loadFirst_present present, load_perform, held]
    rfl
  have start : (baseOf (namesake.join fileName)).parts ≠ namesake.parts := by decide +kernel
  refine ⟨_, found, present, unset, start, ?_⟩
  rw [statePath_eq, stateName, unset, named]
  have state : ((baseOf (namesake.join fileName)).join ⟨"bosun" ++ "-state.json"⟩).parts ≠
      (namesake.join ⟨"bosun" ++ "-state.json"⟩).parts := by decide +kernel
  exact state

/-- The least configuration lies in a hidden directory inside the namesake. -/
def machineWithNested : Machine :=
  { files := .directory [(".bosun", .directory
      [(".bosun", .directory [("config.yml", .file (Text.encode leastYaml))])])] }

theorem nested_hidden_directory_anchored :
    (∀ path ∈ [namesake.join fileName, namesake.join otherFileName],
      ¬ IsPresent machineWithNested path) ∧
    IsPresent machineWithNested (namesake.join hiddenFileName) ∧
    ∃ loaded, (discover namesake).perform (Machine.answer fun _ => "") machineWithNested =
      (.ok loaded, machineWithNested) ∧ Anchored loaded namesake := by
  obtain ⟨config, read, -, -⟩ := exists_least
  have absent : ∀ path ∈ [namesake.join fileName, namesake.join otherFileName],
      ¬ IsPresent machineWithNested path := by decide +kernel
  have present : IsPresent machineWithNested (namesake.join hiddenFileName) := by decide +kernel
  have held : inFile machineWithNested (namesake.join hiddenFileName) = .ok config :=
    (inFile_of_encode (by decide +kernel)).trans read
  obtain ⟨same, -, first⟩ := discovery_anchored_iff (fun _ => "") machineWithNested namesake
  obtain ⟨-, succeeded⟩ := first _ _ [] rfl absent present
  obtain ⟨loaded, found, -, anchored⟩ := succeeded config held
  exact ⟨absent, present, loaded, Prod.ext found same, anchored.2 fun _ => rfl⟩

end Config

end DeploymentLifecycle
