import DeploymentLifecycle.Proofs.FileTree.Frame
import DeploymentLifecycle.Proofs.Path.Parts

namespace DeploymentLifecycle

/-! Where a path leads in a tree is a question of its parts: dots and doubled slashes demand
directories, but lead nowhere. -/

namespace Path

variable {path outer : Path} {text : String} {before : List Part} {stop : Nat}

/-- The step that a part takes. -/
def Part.step? : Part → Option String
  | .root => none
  | .here => none
  | .up => some ".."
  | .name text => some text

@[simp]
theorem step?_partOf : (partOf text).step? = some text := by
  rw [partOf]
  split
  · next up => rw [up]; rfl
  · rfl

/-- The parts of a path are what it starts with and the steps that are no dots. -/
theorem parts_of_steps : path.parts =
    path.lead.map Prod.fst ++ ((FileTree.steps path).filter (· != ".")).map partOf := by
  rw [parts, endedParts_eq, List.map_append, texts_named, FileTree.steps, List.filter_filter]
  congr 2
  exact List.filter_congr fun text _ => Bool.and_comm _ _

theorem steps_of_parts :
    path.parts.filterMap Part.step? = (FileTree.steps path).filter (· != ".") := by
  have still : (path.lead.map Prod.fst).filterMap Part.step? = [] := by
    rw [lead]
    split
    · rfl
    · split
      · split <;> rfl
      · rfl
  have onwards : Part.step? ∘ partOf = some := funext fun _ => step?_partOf
  rw [parts_of_steps, List.filterMap_append, still, List.filterMap_map, onwards,
    List.filterMap_some, List.nil_append]

theorem partOf_ne_root : partOf text ≠ .root := by
  rw [partOf]
  split <;> nofun

theorem isAbsolute_iff : path.isAbsolute ↔ path.parts.head? = some .root := by
  rw [parts_of_steps, lead]
  cases absolute : path.isAbsolute with
  | true => simp
  | false =>
      simp only [Bool.false_eq_true, if_false, false_iff]
      -- The first part is a dot, or comes from the text of a segment.
      have named : ∀ texts : List String, (texts.map partOf).head? ≠ some .root := by
        intro texts
        cases texts with
        | nil => simp
        | cons text rest => simpa using partOf_ne_root
      split
      · split
        · simp
        · exact named _
      · exact named _

theorem slash_not_mem_go {held chars : List Char} {count : Nat} (free : '/' ∉ held)
    (member : (text, stop) ∈ segments.go held count chars) : '/' ∉ text.toList := by
  induction chars generalizing held count with
  | nil =>
      obtain ⟨rfl, -⟩ := Prod.mk.inj (List.mem_singleton.1 member)
      simpa using free
  | cons c rest ih =>
      by_cases slash : c = '/'
      · simp only [segments.go, slash, if_true] at member
        rcases List.mem_cons.1 member with here | later
        · obtain ⟨rfl, -⟩ := Prod.mk.inj here
          simpa using free
        · exact ih (by simp) later
      · simp only [segments.go, slash, if_false] at member
        exact ih (by simp [free, Ne.symm slash]) member

theorem go_of_plain {held chars : List Char} {count : Nat} (plain : '/' ∉ chars) :
    segments.go held count chars = [(String.ofList (held.reverse ++ chars), count + chars.length)] := by
  induction chars generalizing held count with
  | nil => simp [segments.go]
  | cons c rest ih =>
      simp only [List.mem_cons, not_or] at plain
      rw [segments.go, if_neg (Ne.symm plain.1), ih plain.2]
      simp
      omega

/-- A text that is a name as it stands, if it is put behind a path. -/
structure PlainName (text : String) : Prop where
  slashless : '/' ∉ text.toList
  visible : text ≠ ""
  notHere : text ≠ "."
  notUp : text ≠ ".."

theorem plainName_of_mem (member : .name text ∈ path.parts) : PlainName text := by
  rw [parts, endedParts_eq, List.map_append, texts_named, lead] at member
  rcases List.mem_append.1 member with start | named
  · split at start
    · simp at start
    · split at start
      · split at start <;> simp at start
      · simp at start
  · obtain ⟨segment, kept, same⟩ := List.mem_map.1 named
    obtain ⟨inside, visible⟩ := List.mem_filter.1 kept
    obtain ⟨⟨_, stop⟩, split, rfl⟩ := List.mem_map.1 inside
    rw [partOf] at same
    split at same
    · cases same
    · next notUp =>
      cases same
      simp only [bne_iff_ne, ne_eq, Bool.and_eq_true] at visible
      exact ⟨slash_not_mem_go (by simp) split, visible.1, visible.2, notUp⟩

namespace PlainName

theorem isAbsolute (plain : PlainName text) : ¬ (Path.mk text).isAbsolute := by
  rw [Path.isAbsolute, beq_iff_eq]
  intro starts
  exact plain.slashless (List.mem_of_head? starts)

theorem segments (plain : PlainName text) :
    segments text.toList = [(text, text.length)] := by
  rw [Path.segments, go_of_plain plain.slashless]
  simp [String.length_toList]

theorem named (plain : PlainName text) : named (Path.segments text.toList) = [(.name text, text.length)] := by
  simp [plain.segments, Path.named, plain.visible, plain.notHere, partOf, plain.notUp]

theorem addedParts (plain : PlainName text) : (Path.mk text).addedParts = [.name text] := by
  rw [Path.addedParts, plain.named]
  rfl

theorem parts (plain : PlainName text) : (Path.mk text).parts = [.name text] := by
  rw [Path.parts, endedParts_eq, plain.named, lead, if_neg plain.isAbsolute, plain.segments]
  simp [plain.notHere]

theorem join (plain : PlainName text) : (path.join ⟨text⟩).parts = path.parts ++ [.name text] := by
  rw [parts_join_plain plain.isAbsolute (plain.parts.trans plain.addedParts.symm), plain.addedParts]

end PlainName

theorem fileName?_eq_some : path.fileName? = some text ↔
    ∃ parts, path.parts = parts ++ [.name text] := by
  rw [← List.getLast?_eq_some_iff, fileName?]
  split
  · next last => simp [last]
  · next other =>
    simp only [reduceCtorEq, false_iff]
    exact other text

/-- In place of a name comes another one. -/
theorem parts_withFileName {other : String} (plain : PlainName other)
    (whole : path.parts = before ++ [.name text]) :
    (path.withFileName other).parts = before ++ [.name other] := by
  obtain ⟨outer, lies, same⟩ := parent?_of_parts whole
  rw [withFileName, fileName?_eq_some.2 ⟨before, whole⟩, lies]
  simp only
  rw [plain.join, same]

theorem parent?_prefix (lies : path.parent? = some outer) :
    outer.text.toList <+: path.text.toList := by
  rw [parent?] at lies
  split at lies
  · cases lies
  · cases lies
    rw [String.toList_ofList]
    exact List.take_prefix _ _
  · cases lies
    exact List.nil_prefix
  · cases lies

/-- The paths that a path lies in start with some of its parts. -/
theorem mem_lineage (member : outer ∈ path.lineage) : outer.parts ≠ [] ∧
    outer.parts <+: path.parts ∧ outer.text.toList <+: path.text.toList := by
  rw [lineage] at member
  split at member
  · cases member
  · next last cuts reversed =>
    rcases List.mem_cons.1 member with rfl | cut
    · refine ⟨?_, List.prefix_rfl, List.prefix_rfl⟩
      intro none
      rw [parts, List.map_eq_nil_iff] at none
      simp [none] at reversed
    · obtain ⟨⟨part, stop⟩, inside, rfl⟩ := List.mem_map.1 cut
      have kept := List.mem_cons_of_mem last inside
      rw [← reversed] at kept
      obtain ⟨before, after, split⟩ :=
        List.append_of_mem (List.mem_filter.1 (List.mem_reverse.1 kept)).1
      rw [parts, endedParts_cut split, parts, split]
      refine ⟨by simp, ⟨after.map Prod.fst, by simp⟩, ?_⟩
      rw [String.toList_ofList]
      exact List.take_prefix _ _

end Path

namespace FileTree

open DeploymentLifecycle.Path (Part PlainName)

variable {tree made : FileTree} {current place goal parent : Place} {path outer : Path}
  {name : String} {steps : List String} {parts before after : List Part} {paths : List Path}

theorem walk_visible (walked : tree.walk place steps = .ok goal) :
    tree.walk place (steps.filter (· != ".")) = .ok goal := by
  induction steps generalizing place with
  | nil => exact walked
  | cons step steps ih =>
      rw [walk_cons] at walked
      obtain ⟨_, entered, walked⟩ := bind_eq_ok.1 walked
      obtain ⟨reached, stepped, walked⟩ := bind_eq_ok.1 walked
      by_cases dot : step = "."
      · rw [next, if_pos dot] at stepped
        cases stepped
        simpa [dot] using ih walked
      · have visible : (step != ".") = true := by simpa using dot
        rw [List.filter_cons, if_pos visible, walk_cons]
        exact bind_eq_ok.2 ⟨(), entered, bind_eq_ok.2 ⟨reached, stepped, ih walked⟩⟩

/-- Dots on the way to a directory make no difference. -/
theorem walk_of_visible (walked : tree.walk place (steps.filter (· != ".")) = .ok goal)
    (inside : tree.DirectoryAt goal) : tree.walk place steps = .ok goal := by
  induction steps generalizing place with
  | nil => exact walked
  | cons step steps ih =>
      have start := enter_eq_ok.2 (directoryAt_of_walk walked inside)
      rw [walk_cons]
      refine bind_eq_ok.2 ⟨(), start, bind_eq_ok.2 ?_⟩
      by_cases dot : step = "."
      · refine ⟨place, by rw [next, if_pos dot], ih ?_⟩
        simpa [dot] using walked
      · have visible : (step != ".") = true := by simpa using dot
        rw [List.filter_cons, if_pos visible, walk_cons] at walked
        obtain ⟨_, _, walked⟩ := bind_eq_ok.1 walked
        obtain ⟨reached, stepped, walked⟩ := bind_eq_ok.1 walked
        exact ⟨reached, stepped, ih walked⟩

/-- Where the parts of a path lead. -/
def reach (tree : FileTree) (current : Place) (parts : List Part) : Except IoError Place :=
  tree.walk (if parts.head? = some .root then [] else current) (parts.filterMap Part.step?)

theorem reach_parts : tree.reach current path.parts =
    tree.walk (start current path) ((FileTree.steps path).filter (· != ".")) := by
  rw [reach, start, Path.steps_of_parts]
  simp [Path.isAbsolute_iff]

theorem reach_of_locate (located : tree.locate current path = .ok place) :
    tree.reach current path.parts = .ok place := by
  obtain ⟨_, _, walked⟩ := bind_eq_ok.1 located
  have visible := walk_visible walked
  rw [reach_parts]
  cases slash : path.endsInSlash <;> simpa [slash] using visible

theorem head?_concat_name :
    (parts ++ [Part.name name]).head? = some .root ↔ parts.head? = some .root := by
  cases parts <;> simp

theorem reach_concat (plain : PlainName name) :
    tree.reach current (parts ++ [.name name]) = .ok place ↔
      ∃ parent, tree.reach current parts = .ok parent ∧ tree.DirectoryAt parent ∧
        child parent name = .ok place := by
  simp only [reach, head?_concat_name, List.filterMap_append, walk_append, bind_eq_ok]
  refine exists_congr fun parent => and_congr_right_iff.2 fun _ => ?_
  rw [List.filterMap_cons, Part.step?]
  simp only [List.filterMap_nil, walk_cons, next, if_neg plain.notHere, if_neg plain.notUp,
    bind_eq_ok]
  constructor
  · rintro ⟨_, entered, reached, named, walked⟩
    cases walked
    exact ⟨enter_eq_ok.1 entered, named⟩
  · rintro ⟨inside, named⟩
    exact ⟨(), enter_eq_ok.2 inside, place, named, rfl⟩

theorem reach_of_approach (reached : tree.approach current path = .ok (parent, some name)) :
    ∃ parts, path.parts = parts ++ [.name name] ∧ tree.reach current parts = .ok parent := by
  obtain ⟨_, walked, _, named⟩ := approach_eq_ok.1 reached
  obtain ⟨last, visible⟩ := Option.filter_eq_some_iff.1 named.symm
  simp only [bne_iff_ne, ne_eq, Bool.and_eq_true] at visible
  obtain ⟨earlier, whole⟩ := List.getLast?_eq_some_iff.1 last
  rw [whole, List.dropLast_concat] at walked
  let before := path.lead.map Prod.fst ++ (earlier.filter (· != ".")).map Path.partOf
  have split : path.parts = before ++ [.name name] := by
    simp [before, Path.parts_of_steps, whole, visible, Path.partOf]
  have steps : before.filterMap Part.step? = earlier.filter (· != ".") := by
    have all := @Path.steps_of_parts path
    rw [split, whole, List.filterMap_append, List.filter_append] at all
    simpa [Part.step?, visible] using all
  refine ⟨before, split, ?_⟩
  have begins : before.head? = some .root ↔ path.isAbsolute := by
    rw [Path.isAbsolute_iff, split, head?_concat_name]
  rw [reach, steps]
  simpa [start, begins] using walk_visible walked

theorem reach_of_prefix (visible : before ≠ [])
    (reached : tree.reach current (before ++ after ++ [.name name]) = .ok place) :
    ∃ middle, tree.reach current before = .ok middle ∧ tree.DirectoryAt middle := by
  have head : (before ++ after ++ [Part.name name]).head? = before.head? := by
    cases before with
    | nil => exact absurd rfl visible
    | cons => rfl
  rw [reach, head, List.append_assoc, List.filterMap_append, walk_append] at reached
  obtain ⟨middle, walked, onwards⟩ := bind_eq_ok.1 reached
  refine ⟨middle, walked, ?_⟩
  obtain ⟨step, rest, more⟩ : ∃ step rest,
      (after ++ [Part.name name]).filterMap Part.step? = step :: rest := by
    apply List.exists_cons_of_ne_nil
    simp [Part.step?]
  rw [more, walk_cons] at onwards
  obtain ⟨_, entered, _⟩ := bind_eq_ok.1 onwards
  exact enter_eq_ok.1 entered

theorem isDirectory_of_reach (valid : checkPath path = .ok ())
    (reached : tree.reach current path.parts = .ok place) (inside : tree.DirectoryAt place) :
    tree.isDirectory current path = true := by
  refine isDirectory_iff.2 ⟨place, bind_eq_ok.2 ⟨(), valid, walk_of_visible ?_ inside⟩, inside⟩
  rw [reach_parts] at reached
  cases slash : path.endsInSlash <;> simpa using reached

theorem checkPath_of_prefix (valid : checkPath path = .ok ()) (visible : outer.text ≠ "")
    (start : outer.text.toList <+: path.text.toList) : checkPath outer = .ok () := by
  obtain ⟨rest, whole⟩ := start
  have text : path.text = outer.text ++ String.ofList rest := by
    rw [← String.toList_inj, String.toList_append, String.toList_ofList, whole]
  simp only [checkPath, text, String.toList_append, List.contains_append,
    String.utf8ByteSize_append] at valid
  unfold checkPath
  split at valid
  · cases valid
  · next clean =>
    split at valid
    · cases valid
    · split at valid
      · cases valid
      · next short =>
        simp only [Bool.or_eq_true, not_or] at clean
        rw [if_neg clean.1, if_neg (by simpa using visible), if_neg (by omega)]

theorem ensureFirst_of_isDirectory (there : ∀ path ∈ paths, tree.isDirectory current path = true) :
    tree.ensureFirst current paths = (.ok (), tree) := by
  cases paths with
  | nil => rfl
  | cons path outer => simp [ensureFirst, ensureDirectory_of_isDirectory (there path (by simp))]

/-- The directories that lead to something are there. -/
theorem isDirectory_of_lineage (located : tree.locate current path = .ok place)
    (whole : path.parts = before ++ [.name name]) (lies : path.parent? = some outer) :
    ∀ directory ∈ outer.lineage, tree.isDirectory current directory = true := by
  intro directory member
  obtain ⟨visible, ⟨between, split⟩, start⟩ := Path.mem_lineage member
  obtain ⟨_, valid, _⟩ := bind_eq_ok.1 located
  obtain ⟨_, lies', same⟩ := Path.parent?_of_parts whole
  obtain rfl := Option.some.inj (lies.symm.trans lies')
  have reached := reach_of_locate located
  rw [whole, ← same, ← split] at reached
  obtain ⟨middle, early, inside⟩ := reach_of_prefix visible reached
  have nonempty : directory.text ≠ "" := fun empty => visible (Path.parts_eq_nil_iff.2 empty)
  have checked := checkPath_of_prefix valid nonempty (start.trans (Path.parent?_prefix lies))
  exact isDirectory_of_reach checked early inside

end FileTree

end DeploymentLifecycle
