import DeploymentLifecycle.FileTree

namespace DeploymentLifecycle.FileTree

/-! What is at a place after something was put into a tree or taken out of it. -/

variable {tree item held : FileTree} {entries : List (String × FileTree)} {name other : String}
  {place goal parent : Place}

theorem lookup_withEntry : (withEntry entries name item).lookup other =
    if other = name then some item else entries.lookup other := by
  induction entries with
  | nil => grind [withEntry]
  | cons entry rest ih => grind [withEntry]

theorem lookup_filter : (entries.filter fun (held, _) => held != name).lookup other =
    if other = name then none else entries.lookup other := by
  induction entries with
  | nil => simp
  | cons entry rest ih => grind

/-- There is a directory at the place. -/
def DirectoryAt (tree : FileTree) (place : Place) : Prop :=
  ∃ entries, tree.at? place = some (.directory entries)

theorem enter_eq_ok : tree.enter place = .ok () ↔ tree.DirectoryAt place := by
  rw [enter]
  split <;> simp_all [DirectoryAt]

@[simp]
theorem directoryAt_nil : tree.DirectoryAt [] ↔ ∃ entries, tree = .directory entries := by
  simp [DirectoryAt, at?]

@[simp]
theorem directoryAt_cons : (FileTree.directory entries).DirectoryAt (name :: place) ↔
    ∃ held, entries.lookup name = some held ∧ held.DirectoryAt place := by
  cases found : entries.lookup name <;> simp [DirectoryAt, at?, entry?, found]

theorem DirectoryAt.nil (directory : tree.DirectoryAt place) : tree.DirectoryAt [] := by
  cases tree with
  | directory entries => exact ⟨entries, rfl⟩
  | file content => cases place <;> simp [DirectoryAt, at?, entry?] at directory
  | program => cases place <;> simp [DirectoryAt, at?, entry?] at directory

/-- There are directories at the same places, whatever else there is. -/
def SameDirectories (tree other : FileTree) : Prop :=
  ∀ place, tree.DirectoryAt place ↔ other.DirectoryAt place

theorem sameDirectories_of_leaves (leaf : ¬ tree.DirectoryAt []) (other : ¬ item.DirectoryAt []) :
    tree.SameDirectories item :=
  fun _ => ⟨fun inside => absurd inside.nil leaf, fun inside => absurd inside.nil other⟩

theorem sameDirectories_withEntry (found : entries.lookup name = some held)
    (same : item.SameDirectories held) :
    (FileTree.directory (withEntry entries name item)).SameDirectories (.directory entries) := by
  intro place
  cases place with
  | nil => simp
  | cons first place =>
      simp only [directoryAt_cons, lookup_withEntry]
      by_cases here : first = name
      · subst here
        simp [found, same place]
      · simp [here]

theorem SameDirectories.symm (same : tree.SameDirectories item) : item.SameDirectories tree :=
  fun place => (same place).symm

theorem SameDirectories.trans {first second third : FileTree}
    (earlier : first.SameDirectories second) (later : second.SameDirectories third) :
    first.SameDirectories third :=
  fun place => (earlier place).trans (later place)

/-- An entry that is no directory, and a change that leaves none there, make no difference. -/
theorem sameDirectories_leaf {changed : List (String × FileTree)}
    (free : ∀ held, entries.lookup name = some held → ¬ held.DirectoryAt [])
    (leaf : ∀ held, changed.lookup name = some held → ¬ held.DirectoryAt [])
    (others : ∀ other, other ≠ name → changed.lookup other = entries.lookup other) :
    (FileTree.directory changed).SameDirectories (.directory entries) := by
  intro place
  cases place with
  | nil => simp
  | cons first place =>
      simp only [directoryAt_cons]
      by_cases here : first = name
      · subst here
        exact ⟨fun ⟨held, found, inside⟩ => absurd inside.nil (leaf held found),
          fun ⟨held, found, inside⟩ => absurd inside.nil (free held found)⟩
      · rw [others first here]

/-- Something else than a directory, put where none was, leaves the directories as they are. -/
theorem sameDirectories_put (leaf : ¬ item.DirectoryAt []) (free : ¬ tree.DirectoryAt place) :
    (tree.put place item).SameDirectories tree := by
  induction place generalizing tree with
  | nil => exact sameDirectories_of_leaves leaf free
  | cons name rest ih =>
      cases tree with
      | file content => exact fun _ => Iff.rfl
      | program => exact fun _ => Iff.rfl
      | directory entries =>
          simp only [directoryAt_cons, not_exists, not_and] at free
          cases rest with
          | nil =>
              refine sameDirectories_leaf free ?_ ?_ <;> simp_all [lookup_withEntry]
          | cons second rest =>
              cases found : entries.lookup name with
              | none =>
                  simp only [put, found]
                  exact fun _ => Iff.rfl
              | some held =>
                  simp only [put, found]
                  exact sameDirectories_withEntry found (ih (free held found))

theorem sameDirectories_putFile (content : List UInt8) (free : ¬ tree.DirectoryAt place) :
    (tree.put place (.file content)).SameDirectories tree :=
  sameDirectories_put (by simp) free

theorem sameDirectories_erase (free : ¬ tree.DirectoryAt place) :
    (tree.erase place).SameDirectories tree := by
  induction place generalizing tree with
  | nil => exact fun _ => by simp [erase]
  | cons name rest ih =>
      cases tree with
      | file content => cases rest <;> exact fun _ => Iff.rfl
      | program => cases rest <;> exact fun _ => Iff.rfl
      | directory entries =>
          simp only [directoryAt_cons, not_exists, not_and] at free
          cases rest with
          | nil =>
              refine sameDirectories_leaf free ?_ ?_ <;> simp_all [lookup_filter]
          | cons second rest =>
              cases found : entries.lookup name with
              | none =>
                  simp only [erase, found]
                  exact fun _ => Iff.rfl
              | some held =>
                  simp only [erase, found]
                  exact sameDirectories_withEntry found (ih (free held found))

/-- Whatever is put where no directory was, none is lost. -/
theorem DirectoryAt.put (directory : tree.DirectoryAt goal) (free : ¬ tree.DirectoryAt place) :
    (tree.put place item).DirectoryAt goal := by
  induction place generalizing tree goal with
  | nil => exact absurd directory.nil free
  | cons name rest ih =>
      obtain ⟨entries, rfl⟩ := directoryAt_nil.1 directory.nil
      simp only [directoryAt_cons, not_exists, not_and] at free
      cases goal with
      | nil => cases rest <;> cases found : entries.lookup name <;> simp [FileTree.put, found]
      | cons first goal =>
          obtain ⟨held, found, inside⟩ := directoryAt_cons.1 directory
          by_cases here : first = name
          · subst here
            cases rest with
            | nil => exact absurd inside.nil (free held found)
            | cons second rest =>
                have deeper := ih inside (free held found)
                simpa [FileTree.put, found, lookup_withEntry] using deeper
          · cases rest <;> cases other : entries.lookup name <;>
              simp [FileTree.put, other, lookup_withEntry, here, found, inside]

theorem at?_put_self (directory : tree.DirectoryAt parent) :
    (tree.put (parent ++ [name]) item).at? (parent ++ [name]) = some item := by
  induction parent generalizing tree with
  | nil =>
      obtain ⟨entries, rfl⟩ := directoryAt_nil.1 directory
      simp [put, at?, entry?, lookup_withEntry]
  | cons first rest ih =>
      obtain ⟨entries, rfl⟩ := directoryAt_nil.1 directory.nil
      obtain ⟨held, found, inside⟩ := directoryAt_cons.1 directory
      have deeper := ih inside
      cases rest <;> simpa [put, found, at?, entry?, lookup_withEntry] using deeper

end DeploymentLifecycle.FileTree
