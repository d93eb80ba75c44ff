import DeploymentLifecycle.Proofs.FileTree.Directories

namespace DeploymentLifecycle.FileTree

/-! What stands at the places of a tree that a change does not touch. -/

variable {tree item held : FileTree} {entries : List (String × FileTree)} {name other : String}
  {place goal parent : Place}

/-- What is at a place, apart from what is in it. -/
inductive Item where
  | file (content : List UInt8)
  | program
  | directory
deriving DecidableEq, Repr

def kind : FileTree → Item
  | .file content => .file content
  | .program => .program
  | .directory _ => .directory

def item? (tree : FileTree) (place : Place) : Option Item :=
  (tree.at? place).map kind

theorem item?_eq_directory : tree.item? place = some .directory ↔ tree.DirectoryAt place := by
  unfold item? DirectoryAt
  rcases tree.at? place with _ | _ | _ | entries <;> simp [kind]

theorem item?_eq_none : tree.item? place = none ↔ tree.at? place = none :=
  Option.map_eq_none_iff

theorem item?_cons : (FileTree.directory entries).item? (name :: place) =
    (entries.lookup name).bind fun held => held.item? place := by
  cases found : entries.lookup name <;> simp [item?, at?, entry?, found]

/-- Nothing is inside of it. -/
def Bare (tree : FileTree) : Prop :=
  ∀ name, tree.entry? name = none

theorem bare_of_leaf (leaf : ¬ tree.DirectoryAt []) : tree.Bare := by
  cases tree with
  | directory entries => exact absurd ⟨entries, rfl⟩ leaf
  | _ => exact fun _ => rfl

theorem bare_directory : (FileTree.directory []).Bare := fun _ => rfl

theorem Bare.item? (bare : tree.Bare) :
    tree.item? place = if place = [] then some tree.kind else none := by
  cases place with
  | nil => rfl
  | cons name place => simp [FileTree.item?, at?, bare name]

section Deeper

variable {first : String} {rest : Place}

/-- A tree without an entry of that name is not changed behind it. -/
theorem put_of_missing (missing : tree.entry? first = none) :
    tree.put (first :: rest ++ [name]) item = tree := by
  cases tree with
  | directory entries =>
      rw [ entry?] at missing
      cases rest <;> simp [put, missing]
  | _ => cases rest <;> rfl

theorem put_of_found (found : entries.lookup first = some held) :
    (FileTree.directory entries).put (first :: rest ++ [name]) item =
      .directory (withEntry entries first (held.put (rest ++ [name]) item)) := by
  cases rest <;> simp [put, found]

theorem erase_of_missing (missing : tree.entry? first = none) :
    tree.erase (first :: rest ++ [name]) = tree := by
  cases tree with
  | directory entries =>
      rw [ entry?] at missing
      cases rest <;> simp [erase, missing]
  | _ => cases rest <;> rfl

theorem erase_of_found (found : entries.lookup first = some held) :
    (FileTree.directory entries).erase (first :: rest ++ [name]) =
      .directory (withEntry entries first (held.erase (rest ++ [name]))) := by
  cases rest <;> simp [erase, found]

theorem entry?_cases (tree : FileTree) (name : String) : tree.entry? name = none ∨
    ∃ entries held, tree = .directory entries ∧ entries.lookup name = some held := by
  cases tree with
  | directory entries =>
      cases found : entries.lookup name with
      | none => exact .inl found
      | some held => exact .inr ⟨entries, held, rfl, found⟩
  | _ => exact .inl rfl

end Deeper

/-- Something with nothing in it, put where no directory was, changes nothing but that place. -/
theorem item?_put (directory : tree.DirectoryAt parent) (free : ¬ tree.DirectoryAt (parent ++ [name]))
    (bare : item.Bare) : (tree.put (parent ++ [name]) item).item? place =
      if place = parent ++ [name] then some item.kind else tree.item? place := by
  induction parent generalizing tree place with
  | nil =>
      obtain ⟨entries, rfl⟩ := directoryAt_nil.1 directory
      cases place with
      | nil => simp [put, FileTree.item?, at?, kind]
      | cons first place =>
          simp only [List.nil_append, put, item?_cons, lookup_withEntry, List.cons.injEq]
          by_cases here : first = name
          · subst here
            simp only [List.nil_append, directoryAt_cons, not_exists, not_and] at free
            simp only [if_true, Option.bind_some, bare.item?, true_and]
            split
            · rfl
            · -- What was there before had nothing in it either.
              cases found : entries.lookup first with
              | none => rfl
              | some held =>
                  have empty := bare_of_leaf (free held found)
                  simp [empty.item?, *]
          · simp [here]
  | cons first rest ih =>
      obtain ⟨entries, rfl⟩ := directoryAt_nil.1 directory.nil
      obtain ⟨held, found, inside⟩ := directoryAt_cons.1 directory
      have deeper : ¬ held.DirectoryAt (rest ++ [name]) := fun there =>
        free (directoryAt_cons.2 ⟨held, found, there⟩)
      rw [put_of_found found]
      cases place with
      | nil => simp [FileTree.item?, at?, kind]
      | cons second place =>
          simp only [item?_cons, lookup_withEntry, List.cons_append, List.cons.injEq]
          by_cases here : second = first
          · subst here
            simp [found, ih inside deeper]
          · simp [here]

/-- What is taken away, and is no directory, is all that is lost. -/
theorem item?_erase (free : ¬ tree.DirectoryAt (parent ++ [name])) :
    (tree.erase (parent ++ [name])).item? place =
      if place = parent ++ [name] then none else tree.item? place := by
  induction parent generalizing tree place with
  | nil =>
      cases tree with
      | directory entries =>
          cases place with
          | nil => simp [erase, FileTree.item?, at?, kind]
          | cons first place =>
              simp only [List.nil_append, erase, item?_cons, lookup_filter, List.cons.injEq]
              by_cases here : first = name
              · subst here
                simp only [List.nil_append, directoryAt_cons, not_exists, not_and] at free
                cases found : entries.lookup first with
                | none => simp
                | some held =>
                    have empty := bare_of_leaf (free held found)
                    simp only [if_true, Option.bind_none, Option.bind_some, empty.item?, true_and]
                    split <;> rfl
              · simp [here]
      | _ => cases place <;> simp [erase, FileTree.item?, at?, entry?]
  | cons first rest ih =>
      rcases entry?_cases tree first with missing | ⟨entries, held, rfl, found⟩
      · rw [erase_of_missing missing]
        split
        · next here => simp [here, FileTree.item?, at?, missing]
        · rfl
      · have deeper : ¬ held.DirectoryAt (rest ++ [name]) := fun there =>
          free (directoryAt_cons.2 ⟨held, found, there⟩)
        rw [erase_of_found found]
        cases place with
        | nil => simp [FileTree.item?, at?, kind]
        | cons second place =>
            simp only [item?_cons, lookup_withEntry, List.cons_append, List.cons.injEq]
            by_cases here : second = first
            · subst here
              simp [found, ih deeper]
            · simp [here]

/-- Whatever is put under one name of a directory leaves what is under another as it is. -/
theorem at?_put_sibling (apart : other ≠ name) :
    (tree.put (parent ++ [name]) item).at? (parent ++ [other]) = tree.at? (parent ++ [other]) := by
  induction parent generalizing tree with
  | nil =>
      cases tree with
      | directory entries => simp [put, at?, entry?, lookup_withEntry, apart]
      | _ => rfl
  | cons first rest ih =>
      rcases entry?_cases tree first with missing | ⟨entries, held, rfl, found⟩
      · rw [put_of_missing missing]
      · rw [put_of_found found]
        simp [at?, entry?, lookup_withEntry, found, ih]

section Replacement

variable {current besideParent : Place} {path beside : Path} {besideName : String}

/-- A file that was written beside another one and took its place changes nothing but the two. -/
theorem item?_replaced (written : tree.Admits current beside besideParent besideName)
    (admits : tree.Admits current path parent name) (content : List UInt8) :
    (tree.replaced (besideParent ++ [besideName]) (parent ++ [name]) content).item? place =
      if place = parent ++ [name] then some (.file content)
      else if place = besideParent ++ [besideName] then none else tree.item? place := by
  have leaf : (FileTree.file content).Bare := fun _ => rfl
  have first := sameDirectories_putFile content written.free
  have second := (sameDirectories_erase (mt (first _).1 written.free)).trans first
  rw [replaced, item?_put ((second _).2 admits.directory) (mt (second _).1 admits.free) leaf,
    item?_erase (mt (first _).1 written.free), item?_put written.directory written.free leaf]
  split
  · rfl
  · split <;> rfl

end Replacement

section Growth

variable {made later : FileTree} {current : Place} {path : Path} {paths wider : List Path}

/-- All that was there is still there, and all that is new are directories that are among these. -/
def GrownTo (tree : FileTree) (current : Place) (paths : List Path) (made : FileTree) : Prop :=
  ∀ place, made.item? place = tree.item? place ∨
    tree.item? place = none ∧ made.item? place = some .directory ∧
      ∃ path ∈ paths, made.locate current path = .ok place

theorem GrownTo.refl : tree.GrownTo current paths tree :=
  fun _ => .inl rfl

theorem GrownTo.directoryAt (grown : tree.GrownTo current paths made)
    (directory : tree.DirectoryAt place) : made.DirectoryAt place := by
  rw [← item?_eq_directory] at directory ⊢
  rcases grown place with same | ⟨_, there, _⟩
  · rw [same, directory]
  · exact there

theorem GrownTo.weaken (grown : tree.GrownTo current paths made)
    (more : ∀ path ∈ paths, path ∈ wider) : tree.GrownTo current wider made := by
  intro place
  refine (grown place).imp_right ?_
  rintro ⟨free, there, path, member, located⟩
  exact ⟨free, there, path, more path member, located⟩

theorem GrownTo.trans (first : tree.GrownTo current paths made)
    (second : made.GrownTo current paths later) : tree.GrownTo current paths later := by
  intro place
  rcases first place with same | ⟨free, there, path, member, located⟩
  · rw [← same]
    exact second place
  · right
    have still := item?_eq_directory.2 (second.directoryAt (item?_eq_directory.1 there))
    exact ⟨free, still, path, member, locate_mono (fun _ => second.directoryAt) located⟩

theorem grownTo_makeDirectory (done : tree.makeDirectory current path = .ok made) :
    tree.GrownTo current [path] made := by
  obtain ⟨parent, name, reached, named, held, rfl⟩ := makeDirectory_eq_ok done
  have located := (locate_of_makeDirectory reached named held).1
  have directory := (approach_eq_ok.1 reached).2.2.1
  have free : ¬ tree.DirectoryAt (parent ++ [name]) := by simp [DirectoryAt, held]
  intro place
  rw [item?_put directory free bare_directory]
  split
  · next here =>
    subst here
    exact .inr ⟨item?_eq_none.2 held, rfl, path, by simp, located⟩
  · exact .inl rfl

theorem grownTo_ensureDirectory (ensured : tree.ensureDirectory current path = .ok made) :
    tree.GrownTo current [path] made := by
  rw [ensureDirectory] at ensured
  split at ensured
  · next done =>
    cases ensured
    exact grownTo_makeDirectory done
  · split at ensured <;> cases ensured
    exact .refl

/-- Whether the directories are all made or not, those that are new are among them. -/
theorem grownTo_ensureFirst : tree.GrownTo current paths (tree.ensureFirst current paths).2 := by
  induction paths with
  | nil => exact .refl
  | cons path outer ih =>
      have first : ∀ path' ∈ [path], path' ∈ path :: outer := by simp
      have others : tree.GrownTo current (path :: outer) (tree.ensureFirst current outer).2 :=
        ih.weaken fun _ => List.mem_cons_of_mem _
      rw [ensureFirst]
      split
      · next ensured => exact (grownTo_ensureDirectory ensured).weaken first
      · split
        · split
          · next made => simpa [made] using others
          · next made =>
            rw [made] at others
            split
            · next ensured => exact others.trans ((grownTo_ensureDirectory ensured).weaken first)
            · exact others
        · exact .refl

end Growth

end DeploymentLifecycle.FileTree
