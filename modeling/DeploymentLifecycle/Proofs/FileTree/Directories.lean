import DeploymentLifecycle.Proofs.FileTree.Replace

namespace DeploymentLifecycle.FileTree

/-! Directories that were made are there, and making them for a second time changes nothing. -/

variable {tree other made : FileTree} {current place parent : Place} {path : Path} {name : String}

theorem locate_mono (grows : ∀ place, tree.DirectoryAt place → other.DirectoryAt place)
    (located : tree.locate current path = .ok place) : other.locate current path = .ok place := by
  obtain ⟨_, valid, walked⟩ := bind_eq_ok.1 located
  exact bind_eq_ok.2 ⟨(), valid, walk_mono grows walked⟩

theorem isDirectory_iff : tree.isDirectory current path = true ↔
    ∃ place, tree.locate current path = .ok place ∧ tree.DirectoryAt place := by
  rw [isDirectory]
  cases tree.locate current path with
  | error cause => simp [Except.bind]
  | ok place =>
      have entered := @enter_eq_ok tree place
      cases found : tree.enter place <;> simp_all [Except.bind]

theorem isDirectory_mono (grows : ∀ place, tree.DirectoryAt place → other.DirectoryAt place)
    (directory : tree.isDirectory current path = true) : other.isDirectory current path = true := by
  obtain ⟨place, located, inside⟩ := isDirectory_iff.1 directory
  exact isDirectory_iff.2 ⟨place, locate_mono grows located, grows place inside⟩

theorem directoryAt_of_walk {steps : List String} (walked : tree.walk parent steps = .ok place)
    (inside : tree.DirectoryAt place) : tree.DirectoryAt parent := by
  cases steps with
  | nil =>
      cases walked
      exact inside
  | cons step rest =>
      rw [walk_cons] at walked
      obtain ⟨_, entered, _⟩ := bind_eq_ok.1 walked
      exact enter_eq_ok.1 entered

/-- A path that names a directory leads through the one that it lies in. -/
theorem approach_of_isDirectory (directory : tree.isDirectory current path = true) :
    ∃ parent, tree.approach current path = .ok (parent, lastName? path) := by
  obtain ⟨place, located, inside⟩ := isDirectory_iff.1 directory
  obtain ⟨_, valid, walked⟩ := bind_eq_ok.1 located
  obtain ⟨last, whole⟩ := List.dropLast_prefix (steps path)
  have early : ∀ rest, steps path ++ rest = (steps path).dropLast ++ (last ++ rest) := by
    intro rest
    rw [← List.append_assoc, whole]
  rw [early, walk_append] at walked
  obtain ⟨parent, reached, onwards⟩ := bind_eq_ok.1 walked
  exact ⟨parent, approach_eq_ok.2 ⟨valid, reached, directoryAt_of_walk onwards inside, rfl⟩⟩

theorem directoryAt_of_isDirectory (directory : tree.isDirectory current path = true)
    (reached : tree.approach current path = .ok (parent, some name)) :
    child parent name = .ok (parent ++ [name]) ∧ tree.DirectoryAt (parent ++ [name]) := by
  obtain ⟨place, located, inside⟩ := isDirectory_iff.1 directory
  rw [locate_of_approach reached] at located
  obtain ⟨_, named, rest⟩ := bind_eq_ok.1 located
  obtain ⟨_, rfl⟩ := child_eq_ok.1 named
  split at rest
  · cases entered : tree.enter (parent ++ [name]) with
    | error cause => simp [entered, Except.map] at rest
    | ok _ => exact ⟨named, enter_eq_ok.1 entered⟩
  · cases rest
    exact ⟨named, inside⟩

theorem makeDirectory_of_isDirectory (directory : tree.isDirectory current path = true) :
    tree.makeDirectory current path = .error .alreadyExists := by
  obtain ⟨parent, reached⟩ := approach_of_isDirectory directory
  cases named : lastName? path with
  | none =>
      simp [makeDirectory, reached, named, bind, Except.bind, throw, throwThe, MonadExceptOf.throw]
  | some name =>
      rw [named] at reached
      obtain ⟨place, entries, held⟩ := directoryAt_of_isDirectory directory reached
      simp [makeDirectory, reached, place, held, bind, Except.bind, throw, throwThe,
        MonadExceptOf.throw]

theorem ensureDirectory_of_isDirectory (directory : tree.isDirectory current path = true) :
    tree.ensureDirectory current path = .ok tree := by
  simp [ensureDirectory, makeDirectory_of_isDirectory directory, directory]

/-- A directory that was made is a new one, in the one that its path leads to. -/
theorem makeDirectory_eq_ok (done : tree.makeDirectory current path = .ok made) :
    ∃ parent name, tree.approach current path = .ok (parent, some name) ∧
      child parent name = .ok (parent ++ [name]) ∧ tree.at? (parent ++ [name]) = none ∧
      made = tree.put (parent ++ [name]) (.directory []) := by
  obtain ⟨⟨parent, last⟩, reached, rest⟩ := bind_eq_ok.1 done
  cases last with
  | none => exact absurd rest throw_ne_ok
  | some name =>
      obtain ⟨place, named, rest⟩ := bind_eq_ok.1 rest
      obtain ⟨_, rfl⟩ := child_eq_ok.1 named
      cases held : tree.at? (parent ++ [name]) with
      | some item =>
          simp only [held] at rest
          cases rest
      | none =>
          simp only [held] at rest
          cases rest
          exact ⟨parent, name, reached, named, held, rfl⟩

theorem locate_of_makeDirectory (reached : tree.approach current path = .ok (parent, some name))
    (named : child parent name = .ok (parent ++ [name])) (held : tree.at? (parent ++ [name]) = none) :
    let made := tree.put (parent ++ [name]) (.directory [])
    made.locate current path = .ok (parent ++ [name]) ∧ made.DirectoryAt (parent ++ [name]) := by
  have directory := (approach_eq_ok.1 reached).2.2.1
  have free : ¬ tree.DirectoryAt (parent ++ [name]) := by simp [DirectoryAt, held]
  have grows : ∀ place, tree.DirectoryAt place →
      (tree.put (parent ++ [name]) (.directory [])).DirectoryAt place :=
    fun _ inside => inside.put free
  have there : (tree.put (parent ++ [name]) (.directory [])).DirectoryAt (parent ++ [name]) :=
    ⟨[], at?_put_self directory⟩
  have located := locate_of_approach (approach_mono grows reached)
  refine ⟨?_, there⟩
  rw [located, named]
  simp [bind, Except.bind, enter_eq_ok.2 there, Except.map]

theorem isDirectory_of_makeDirectory (done : tree.makeDirectory current path = .ok made) :
    made.isDirectory current path = true := by
  obtain ⟨parent, name, reached, named, held, rfl⟩ := makeDirectory_eq_ok done
  exact isDirectory_iff.2 ⟨_, locate_of_makeDirectory reached named held⟩

theorem isDirectory_of_ensureDirectory (ensured : tree.ensureDirectory current path = .ok made) :
    made.isDirectory current path = true := by
  rw [ensureDirectory] at ensured
  split at ensured
  · next done =>
    cases ensured
    exact isDirectory_of_makeDirectory done
  · split at ensured
    · next there =>
      cases ensured
      exact there.2
    · cases ensured

theorem isDirectory_of_ensureFirst {first : Path} {outer : List Path}
    (done : tree.ensureFirst current (first :: outer) = (.ok (), made)) :
    made.isDirectory current first = true := by
  rw [ensureFirst] at done
  -- It is made at once, or after the directories that it lacks.
  split at done
  · next ensured =>
    cases done
    exact isDirectory_of_ensureDirectory ensured
  · split at done
    · split at done
      · cases done
      · split at done
        · next ensured =>
          cases done
          exact isDirectory_of_ensureDirectory ensured
        · cases done
    · cases done

theorem makeDirectories_again (done : tree.makeDirectories current path = (.ok (), made))
    (same : other.SameDirectories made) : other.makeDirectories current path = (.ok (), other) := by
  rw [makeDirectories] at done ⊢
  cases lies : path.lineage with
  | nil => rfl
  | cons first outer =>
      rw [lies] at done
      have there := isDirectory_of_ensureFirst done
      have still := isDirectory_mono (fun place => (same place).2) there
      simp [ensureFirst, ensureDirectory_of_isDirectory still]

end DeploymentLifecycle.FileTree
