import DeploymentLifecycle.Proofs.FileTree.Place
import DeploymentLifecycle.Proofs.Run

namespace DeploymentLifecycle.FileTree

/-! Where a path leads depends on the directories alone. A file that was written beside another one
and has taken its place is found there, and the next one can be put there in the same way. -/

variable {tree other made item : FileTree} {current place parent goal : Place}
  {path source target : Path} {name : String} {content : List UInt8}

theorem child_eq_ok : child parent name = .ok place ↔
    ¬ name.utf8ByteSize > longestName ∧ place = parent ++ [name] := by
  rw [child]
  split <;> simp_all [eq_comm]

section Walk

variable {steps rest : List String} {step : String}

/-- Where one step leads from a directory. -/
def next (place : Place) (step : String) : Except IoError Place :=
  if step = "." then .ok place else if step = ".." then .ok place.dropLast else child place step

theorem walk_cons : tree.walk place (step :: rest) = (do
    tree.enter place
    tree.walk (← next place step) rest) := by
  rw [walk, next]
  split
  · rfl
  · split <;> rfl

theorem walk_append : tree.walk place (steps ++ rest) = (do
    tree.walk (← tree.walk place steps) rest) := by
  induction steps generalizing place with
  | nil => rfl
  | cons step steps ih =>
      simp only [List.cons_append, walk_cons, bind_assoc]
      cases tree.enter place with
      | error cause => rfl
      | ok entered =>
          cases stepped : next place step with
          | error cause => rfl
          | ok place => exact ih

theorem walk_mono (grows : ∀ place, tree.DirectoryAt place → other.DirectoryAt place)
    (reached : tree.walk place steps = .ok goal) : other.walk place steps = .ok goal := by
  induction steps generalizing place with
  | nil => exact reached
  | cons step steps ih =>
      rw [walk_cons] at reached ⊢
      obtain ⟨_, entered, rest⟩ := bind_eq_ok.1 reached
      obtain ⟨place', stepped, rest⟩ := bind_eq_ok.1 rest
      have inside := grows place (enter_eq_ok.1 entered)
      exact bind_eq_ok.2 ⟨(), enter_eq_ok.2 inside, bind_eq_ok.2 ⟨place', stepped, ih rest⟩⟩

end Walk

/-- The last step of a path, if it is a name. -/
def lastName? (path : Path) : Option String :=
  (steps path).getLast?.filter fun step => step != "." && step != ".."

theorem approach_eq_ok {last : Option String} : tree.approach current path = .ok (parent, last) ↔
    checkPath path = .ok () ∧ tree.walk (start current path) (steps path).dropLast = .ok parent ∧
      tree.DirectoryAt parent ∧ last = lastName? path := by
  rw [approach, ← enter_eq_ok]
  cases checkPath path with
  | error cause => simp [bind, Except.bind]
  | ok checked =>
      cases walked : tree.walk (start current path) (steps path).dropLast with
      | error cause => simp [bind, Except.bind]
      | ok reached =>
          cases entered : tree.enter reached with
          | error cause =>
              simp only [bind, Except.bind, entered, reduceCtorEq, false_iff, not_and]
              rintro - same
              cases same
              simp [entered]
          | ok inside =>
              simp only [bind, Except.bind, entered, lastName?, pure, Except.pure]
              grind

theorem approach_mono (grows : ∀ place, tree.DirectoryAt place → other.DirectoryAt place)
    {last : Option String} (reached : tree.approach current path = .ok (parent, last)) :
    other.approach current path = .ok (parent, last) := by
  rw [approach_eq_ok] at reached ⊢
  obtain ⟨valid, walked, directory, named⟩ := reached
  exact ⟨valid, walk_mono grows walked, grows parent directory, named⟩

/-- A name at the end of a path leads from its directory to the place that it names. -/
theorem locate_of_approach (reached : tree.approach current path = .ok (parent, some name)) :
    tree.locate current path = (do
      let place ← child parent name
      if path.endsInSlash then (tree.enter place).map fun _ => place else .ok place) := by
  obtain ⟨valid, walked, directory, named⟩ := approach_eq_ok.1 reached
  obtain ⟨last, visible⟩ := Option.filter_eq_some_iff.1 named.symm
  simp only [bne_iff_ne, ne_eq, Bool.and_eq_true] at visible
  obtain ⟨earlier, whole⟩ := List.getLast?_eq_some_iff.1 last
  rw [whole, List.dropLast_concat] at walked
  rw [locate, valid, whole, List.append_assoc, walk_append, walked]
  simp only [bind, Except.bind, List.cons_append, List.nil_append, walk_cons,
    enter_eq_ok.2 directory, next, visible, if_false]
  cases child parent name with
  | error cause => rfl
  | ok place =>
      cases path.endsInSlash with
      | false => rfl
      | true =>
          simp only [bind, Except.bind, walk_cons, next, if_true]
          cases tree.enter place <;> rfl

/-- A file can be put at the path, under this name in the directory at this place. -/
structure Admits (tree : FileTree) (current : Place) (path : Path) (parent : Place)
    (name : String) : Prop where
  approached : tree.approach current path = .ok (parent, some name)
  noSlash : path.endsInSlash = false
  short : ¬ name.utf8ByteSize > longestName
  free : ¬ tree.DirectoryAt (parent ++ [name])

theorem Admits.congr (same : other.SameDirectories tree)
    (admits : tree.Admits current path parent name) : other.Admits current path parent name where
  approached := approach_mono (fun place => (same place).2) admits.approached
  noSlash := admits.noSlash
  short := admits.short
  free inside := admits.free ((same _).1 inside)

theorem Admits.directory (admits : tree.Admits current path parent name) :
    tree.DirectoryAt parent :=
  (approach_eq_ok.1 admits.approached).2.2.1

theorem Admits.locate (admits : tree.Admits current path parent name) :
    tree.locate current path = .ok (parent ++ [name]) := by
  rw [locate_of_approach admits.approached, admits.noSlash, child, if_neg admits.short]
  rfl

theorem Admits.read (admits : tree.Admits current path parent name)
    (held : tree.at? (parent ++ [name]) = some (.file content)) :
    tree.read current path = .ok content := by
  rw [FileTree.read, admits.locate]
  simp [bind, Except.bind, held]
  rfl

theorem at?_cases (tree : FileTree) (place : Place) :
    tree.DirectoryAt place ∨ tree.at? place = none ∨ tree.at? place = some .program ∨
      ∃ content, tree.at? place = some (.file content) := by
  rcases held : tree.at? place with _ | _ | _ | entries <;> simp [DirectoryAt, held]

theorem Admits.write (admits : tree.Admits current path parent name) :
    tree.write current path content = .ok (tree.put (parent ++ [name]) (.file content)) := by
  simp only [FileTree.write, admits.approached, bind, Except.bind, admits.noSlash, child,
    if_neg admits.short]
  rcases at?_cases tree (parent ++ [name]) with inside | held | held | ⟨_, held⟩
  · exact absurd inside admits.free
  all_goals simp [held, pure, Except.pure]

theorem admits_of_write (wrote : tree.write current path content = .ok other) :
    ∃ parent name, tree.Admits current path parent name ∧
      other = tree.put (parent ++ [name]) (.file content) := by
  obtain ⟨⟨parent, last⟩, approached, rest⟩ := bind_eq_ok.1 wrote
  cases last with
  | none => exact absurd rest throw_ne_ok
  | some name =>
      dsimp only at rest
      split at rest
      · exact absurd rest throw_ne_ok
      · next noSlash =>
        obtain ⟨place, named, rest⟩ := bind_eq_ok.1 rest
        obtain ⟨short, rfl⟩ := child_eq_ok.1 named
        have free : ¬ tree.DirectoryAt (parent ++ [name]) := by
          rintro ⟨entries, held⟩
          simp [held] at rest
        have admits : tree.Admits current path parent name :=
          ⟨approached, by simpa using noSlash, short, free⟩
        exact ⟨parent, name, admits, Except.ok.inj (wrote.symm.trans admits.write)⟩

/-- A file that can be put at one path takes the place of what is at another one. -/
theorem Admits.rename {sourceParent : Place} {sourceName : String}
    (found : tree.Admits current source sourceParent sourceName)
    (held : tree.at? (sourceParent ++ [sourceName]) = some item)
    (admits : tree.Admits current target parent name) :
    tree.rename current source target =
      .ok ((tree.erase (sourceParent ++ [sourceName])).put (parent ++ [name]) item) := by
  simp only [FileTree.rename, found.approached, admits.approached, bind, Except.bind, child,
    if_neg found.short, if_neg admits.short, held, found.noSlash, admits.noSlash]
  rcases at?_cases tree (parent ++ [name]) with inside | held | held | ⟨_, held⟩
  · exact absurd inside admits.free
  all_goals simp [held, pure, Except.pure]

theorem admits_of_rename (renamed : tree.rename current source target = .ok other) :
    ∃ parent name, tree.Admits current target parent name := by
  obtain ⟨⟨sourceParent, sourceLast⟩, _, rest⟩ := bind_eq_ok.1 renamed
  obtain ⟨⟨parent, last⟩, approached, rest⟩ := bind_eq_ok.1 rest
  cases sourceLast with
  | none => exact absurd rest throw_ne_ok
  | some sourceName =>
    cases last with
    | none => exact absurd rest throw_ne_ok
    | some name =>
        dsimp only at rest
        obtain ⟨place, _, rest⟩ := bind_eq_ok.1 rest
        split at rest
        · exact absurd rest throw_ne_ok
        · obtain ⟨goal, named, rest⟩ := bind_eq_ok.1 rest
          obtain ⟨short, rfl⟩ := child_eq_ok.1 named
          split at rest
          · exact absurd rest throw_ne_ok
          · next noSlash =>
            have free : ¬ tree.DirectoryAt (parent ++ [name]) := by
              rintro ⟨entries, held⟩
              simp [held] at rest
            exact ⟨parent, name, approached, by simp_all, short, free⟩

/-- Writes beside a file and lets this take its place. -/
def replace (tree : FileTree) (current : Place) (beside path : Path) (content : List UInt8) :
    Except IoError FileTree := do
  (← tree.write current beside content).rename current beside path

section Replace

variable {beside : Path} {besideParent : Place} {besideName : String}

/-- The tree after a file at a first place has taken the one at a second. -/
def replaced (tree : FileTree) (place goal : Place) (content : List UInt8) : FileTree :=
  ((tree.put place (.file content)).erase place).put goal (.file content)

theorem Admits.replace (written : tree.Admits current beside besideParent besideName)
    (admits : tree.Admits current path parent name) : tree.replace current beside path content =
      .ok (tree.replaced (besideParent ++ [besideName]) (parent ++ [name]) content) := by
  have same := sameDirectories_putFile content written.free
  have held : (tree.put (besideParent ++ [besideName]) (.file content)).at?
      (besideParent ++ [besideName]) = some (.file content) := at?_put_self written.directory
  rw [FileTree.replace, written.write]
  exact (written.congr same).rename held (admits.congr same)

theorem admits_of_replace (done : tree.replace current beside path content = .ok other) :
    ∃ besideParent besideName parent name, tree.Admits current beside besideParent besideName ∧
      tree.Admits current path parent name := by
  obtain ⟨middle, wrote, renamed⟩ := bind_eq_ok.1 done
  obtain ⟨besideParent, besideName, written, rfl⟩ := admits_of_write wrote
  obtain ⟨parent, name, admits⟩ := admits_of_rename renamed
  have same := sameDirectories_putFile content written.free
  exact ⟨besideParent, besideName, parent, name, written, admits.congr same.symm⟩

theorem sameDirectories_replaced (content : List UInt8) (written : ¬ tree.DirectoryAt place)
    (free : ¬ tree.DirectoryAt goal) : (tree.replaced place goal content).SameDirectories tree := by
  have first : (tree.put place (.file content)).SameDirectories tree :=
    sameDirectories_putFile content written
  have second := (sameDirectories_erase (mt (first place).1 written)).trans first
  exact (sameDirectories_putFile content (mt (second goal).1 free)).trans second

theorem read_replaced (written : tree.Admits current beside besideParent besideName)
    (admits : tree.Admits current path parent name) :
    (tree.replaced (besideParent ++ [besideName]) (parent ++ [name]) content).read current path =
      .ok content := by
  have first := sameDirectories_putFile content written.free
  have second := (sameDirectories_erase (mt (first _).1 written.free)).trans first
  have whole := sameDirectories_replaced content written.free admits.free
  exact (admits.congr whole).read (at?_put_self (admits.congr second).directory)

end Replace

end DeploymentLifecycle.FileTree
