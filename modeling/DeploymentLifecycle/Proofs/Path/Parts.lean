import DeploymentLifecycle.Path

namespace DeploymentLifecycle.Path

/-! The parts of a path that is put behind another one, and those of the path that one lies in. Paths
with the same parts lead to the same place. -/

section Segments

variable {chars first rest held : List Char} {count other stop : Nat} {text : String}
  {before after : List (String × Nat)}

/-- What stands behind a slash is split by itself. -/
theorem go_append : segments.go held count (first ++ '/' :: rest) =
    segments.go held count first ++ segments.go [] (count + first.length + 1) rest := by
  induction first generalizing held count with
  | nil => simp [segments.go]
  | cons c first ih =>
      have shift : count + 1 + first.length = count + (first.length + 1) := by omega
      by_cases slash : c = '/' <;> simp [segments.go, slash, ih, shift]

theorem texts_go : (segments.go held count chars).map Prod.fst =
    (segments.go held other chars).map Prod.fst := by
  induction chars generalizing held count other with
  | nil => rfl
  | cons c rest ih =>
      by_cases slash : c = '/'
      · simpa [segments.go, slash] using ih
      · simpa [segments.go, slash] using ih

/-- There is a first segment, which starts with what was read of it before. -/
theorem exists_go : ∃ more stop rest,
    segments.go held count chars = (String.ofList (held.reverse ++ more), stop) :: rest := by
  induction chars generalizing held count with
  | nil => exact ⟨[], count, [], by simp [segments.go]⟩
  | cons c chars ih =>
      by_cases slash : c = '/'
      · exact ⟨[], count, segments.go [] (count + 1) chars, by simp [segments.go, slash]⟩
      · obtain ⟨more, stop, rest, same⟩ := @ih (c :: held) (count + 1)
        exact ⟨c :: more, stop, rest, by simp [segments.go, slash, same]⟩

/-- Up to the end of one of its segments, a text is split in the same way. -/
theorem go_take (split : segments.go held count chars = before ++ (text, stop) :: after) :
    count ≤ stop ∧
      segments.go held count (chars.take (stop - count)) = before ++ [(text, stop)] := by
  induction chars generalizing held count before with
  | nil =>
      cases before with
      | nil =>
          cases split
          exact ⟨Nat.le.refl, by simp [segments.go]⟩
      | cons => simp [segments.go] at split
  | cons c chars ih =>
      by_cases slash : c = '/'
      · simp only [segments.go, slash, if_true] at split
        cases before with
        | nil =>
            cases split
            exact ⟨Nat.le.refl, by simp [segments.go]⟩
        | cons =>
            obtain ⟨same, split⟩ := List.cons.inj split
            obtain ⟨later, taken⟩ := ih split
            have step : stop - count = stop - (count + 1) + 1 := by omega
            refine ⟨by omega, ?_⟩
            simp [step, segments.go, slash, taken, same]
      · simp only [segments.go, slash, if_false] at split
        obtain ⟨later, taken⟩ := ih split
        have step : stop - count = stop - (count + 1) + 1 := by omega
        refine ⟨by omega, ?_⟩
        simp [step, segments.go, slash, taken]

/-- A segment is no longer than what was read up to its end. -/
theorem length_le_of_mem_go (member : (text, stop) ∈ segments.go held count chars) :
    count + text.length ≤ stop + held.length := by
  induction chars generalizing held count with
  | nil =>
      obtain ⟨rfl, rfl⟩ := Prod.mk.inj (List.mem_singleton.1 member)
      simp
  | cons c chars ih =>
      by_cases slash : c = '/'
      · simp only [segments.go, slash, if_true] at member
        rcases List.mem_cons.1 member with here | later
        · obtain ⟨rfl, rfl⟩ := Prod.mk.inj here
          simp
        · have shorter := ih later
          simp only [List.length_nil] at shorter
          omega
      · simp only [segments.go, slash, if_false] at member
        have shorter := ih member
        simp only [List.length_cons] at shorter
        omega

end Segments

/-- The parts that segments are, apart from the start of a path. -/
def named (pieces : List (String × Nat)) : List (Part × Nat) :=
  (pieces.filter fun (text, _) => text != "" && text != ".").map fun (text, count) =>
    (partOf text, count)

/-- What stands for the start of a path: the root, or a dot. -/
def lead (path : Path) : List (Part × Nat) :=
  if path.isAbsolute then [(.root, 1)]
  else
    match segments path.text.toList with
    | (text, count) :: _ => if text = "." then [(.here, count)] else []
    | [] => []

theorem endedParts_eq (path : Path) :
    path.endedParts = path.lead ++ named (segments path.text.toList) := by
  unfold endedParts lead
  cases path.isAbsolute with
  | true => rfl
  | false =>
      simp only [Bool.false_eq_true, if_false]
      cases segments path.text.toList with
      | nil => rfl
      | cons piece rest =>
          obtain ⟨text, count⟩ := piece
          by_cases dot : text = "." <;> simp [dot, named]

theorem named_append {first second : List (String × Nat)} :
    named (first ++ second) = named first ++ named second := by
  simp [named]

theorem named_split {pieces : List (String × Nat)} {before after : List (Part × Nat)} {part : Part}
    {stop : Nat} (split : named pieces = before ++ (part, stop) :: after) :
    ∃ earlier text later, pieces = earlier ++ (text, stop) :: later ∧
      named (earlier ++ [(text, stop)]) = before ++ [(part, stop)] ∧ text ≠ "" := by
  obtain ⟨first, second, kept, rfl, rest⟩ := List.map_eq_append_iff.1 split
  obtain ⟨⟨text, _⟩, others, rfl, same, -⟩ := List.map_eq_cons_iff.1 rest
  obtain ⟨earlier, tail, rfl, rfl, tailKept⟩ := List.filter_eq_append_iff.1 kept
  obtain ⟨hidden, later, rfl, none, visible, -⟩ := List.filter_eq_cons_iff.1 tailKept
  cases same
  have unnamed : named hidden = [] := by
    simpa [named, List.filter_eq_nil_iff] using none
  simp only [bne_iff_ne, ne_eq, Bool.and_eq_true] at visible
  refine ⟨earlier ++ hidden, text, later, by simp, ?_, visible.1⟩
  rw [named_append, named_append, unnamed, List.append_nil]
  simp [named, visible]

variable {path outer first second : Path} {before after : List (Part × Nat)} {part : Part}
  {stop : Nat} {text : String}

/-- A path that is cut off at the end of a segment with a text starts as before. -/
theorem cut_at_segment {earlier later : List (String × Nat)} (visible : text ≠ "")
    (split : segments path.text.toList = earlier ++ (text, stop) :: later) :
    let cut : Path := ⟨String.ofList (path.text.toList.take stop)⟩
    segments cut.text.toList = earlier ++ [(text, stop)] ∧ cut.lead = path.lead := by
  intro cut
  have taken : segments cut.text.toList = earlier ++ [(text, stop)] := by
    rw [String.toList_ofList]
    exact (go_take split).2
  have member : (text, stop) ∈ segments path.text.toList := by simp [split]
  have inside : 0 < stop := by
    have short := length_le_of_mem_go member
    have long : text.length ≠ 0 := fun empty => visible (String.length_eq_zero_iff.1 empty)
    simp only [List.length_nil] at short
    omega
  have absolute : cut.isAbsolute = path.isAbsolute := by
    rw [isAbsolute, isAbsolute, String.toList_ofList, List.head?_take, if_neg (by omega)]
  refine ⟨taken, ?_⟩
  rw [lead, lead, absolute, taken, split]
  cases earlier <;> rfl

/-- A path that is cut off after its start has nothing but that. -/
theorem endedParts_cut_lead (start : path.lead = [(part, stop)]) :
    (Path.mk (String.ofList (path.text.toList.take stop))).endedParts = [(part, stop)] := by
  by_cases absolute : path.isAbsolute
  · rw [lead, if_pos absolute] at start
    cases start
    obtain ⟨rest, whole⟩ : ∃ rest, path.text.toList = '/' :: rest := by
      rw [isAbsolute, beq_iff_eq, List.head?_eq_some_iff] at absolute
      exact absolute
    simp [whole, endedParts_eq, lead, isAbsolute, segments, segments.go, named]
  · rw [lead, if_neg absolute] at start
    split at start
    · next first count rest split =>
      split at start
      · next dot =>
        cases start
        subst dot
        obtain ⟨cut, same⟩ := @cut_at_segment path stop "." [] rest (by decide) split
        rw [endedParts_eq, same, cut, lead, if_neg absolute, split]
        rfl
      · cases start
    · cases start

/-- A path that is cut off at the end of a part has the parts up to that one. -/
theorem endedParts_cut (split : path.endedParts = before ++ (part, stop) :: after) :
    (Path.mk (String.ofList (path.text.toList.take stop))).endedParts = before ++ [(part, stop)] := by
  have inNamed : ∀ others, named (segments path.text.toList) = others ++ (part, stop) :: after →
      (Path.mk (String.ofList (path.text.toList.take stop))).endedParts =
        path.lead ++ (others ++ [(part, stop)]) := by
    intro others found
    obtain ⟨earlier, text, later, whole, kept, visible⟩ := named_split found
    obtain ⟨cut, same⟩ := cut_at_segment visible whole
    rw [endedParts_eq, same, cut, kept]
  have short : path.lead.length ≤ 1 := by
    rw [lead]
    split
    · simp
    · split
      · split <;> simp
      · simp
  rw [endedParts_eq, List.append_eq_append_iff] at split
  rcases split with ⟨others, rfl, found⟩ | ⟨others, start, rest⟩
  · rw [inNamed others found, List.append_assoc]
  · cases others with
    | nil =>
        rw [inNamed [] rest.symm, start]
        simp
    | cons other others =>
        obtain ⟨rfl, -⟩ := List.cons.inj rest
        have alone : before = [] ∧ others = [] := by
          rw [start] at short
          simp only [List.length_append, List.length_cons] at short
          exact ⟨List.length_eq_zero_iff.1 (by omega), List.length_eq_zero_iff.1 (by omega)⟩
        obtain ⟨rfl, rfl⟩ := alone
        exact endedParts_cut_lead start

/-- What a path with a name at its end lies in has the parts before the name. -/
theorem parent?_of_parts {parts : List Part} (whole : path.parts = parts ++ [.name text]) :
    ∃ outer, path.parent? = some outer ∧ outer.parts = parts := by
  obtain ⟨before, last, ended, rfl, tail⟩ := List.map_eq_append_iff.1 whole
  obtain ⟨⟨_, stop⟩, _, rfl, rfl, none⟩ := List.map_eq_cons_iff.1 tail
  obtain rfl := List.map_eq_nil_iff.1 none
  rw [parent?, ended, List.reverse_append, List.reverse_singleton, List.singleton_append]
  rcases List.eq_nil_or_concat before with rfl | ⟨earlier, ⟨part, count⟩, rfl⟩
  · exact ⟨⟨""⟩, rfl, rfl⟩
  · rw [List.concat_eq_append] at ended ⊢
    rw [List.reverse_append, List.reverse_singleton, List.singleton_append]
    refine ⟨_, rfl, ?_⟩
    rw [List.append_assoc] at ended
    rw [parts, endedParts_cut ended]

theorem lead_congr (absolute : first.isAbsolute = second.isAbsolute)
    (head : (segments first.text.toList).head? = (segments second.text.toList).head?) :
    first.lead = second.lead := by
  unfold lead
  rw [absolute]
  cases left : segments first.text.toList <;> cases right : segments second.text.toList <;>
    simp_all

theorem texts_named {pieces : List (String × Nat)} : (named pieces).map Prod.fst =
    ((pieces.map Prod.fst).filter fun text => text != "" && text != ".").map partOf := by
  rw [named, List.filter_map, List.map_map, List.map_map]
  rfl

/-- The parts that a path adds to the one that it is put behind. -/
def addedParts (path : Path) : List Part :=
  (named (segments path.text.toList)).map Prod.fst

/-- A path that goes on after a slash has the parts up to there, and what it goes on with adds to
them. -/
theorem parts_of_slash {chars : List Char} (visible : first.text ≠ "")
    (start : first.text.toList = chars ∨ first.text.toList = chars ++ ['/'])
    (whole : path.text.toList = chars ++ '/' :: second.text.toList) :
    path.parts = first.parts ++ second.addedParts := by
  have split : segments path.text.toList =
      segments chars ++ segments.go [] (0 + chars.length + 1) second.text.toList := by
    rw [whole]
    exact go_append
  -- A slash at the end of the first path makes for one more segment, which has no text.
  obtain ⟨ending, firstSplit, unnamed⟩ : ∃ ending,
      segments first.text.toList = segments chars ++ ending ∧ named ending = [] := by
    rcases start with same | same
    · exact ⟨[], by rw [same, List.append_nil], rfl⟩
    · exact ⟨_, by rw [same]; exact go_append, rfl⟩
  have absolute : path.isAbsolute = first.isAbsolute := by
    rw [isAbsolute, isAbsolute, whole]
    rcases start with same | same
    · have some : chars ≠ [] := fun none => visible (by
        rw [none, String.toList_eq_nil_iff] at same
        exact same)
      obtain ⟨c, rest, rfl⟩ := List.exists_cons_of_ne_nil some
      rw [same]
      rfl
    · rw [same]
      cases chars <;> rfl
  have lead : path.lead = first.lead := by
    obtain ⟨more, stop, rest, same⟩ := @exists_go chars [] 0
    refine lead_congr absolute ?_
    rw [split, firstSplit, segments, same]
    rfl
  have added : (named (segments.go [] (0 + chars.length + 1) second.text.toList)).map Prod.fst =
      second.addedParts := by
    rw [addedParts, texts_named, texts_named, segments, texts_go]
  rw [parts, parts, endedParts_eq, endedParts_eq, lead, split, firstSplit, named_append,
    named_append, unnamed, ← added]
  simp

theorem parts_join (relative : ¬ second.isAbsolute) (visible : first.text ≠ "") :
    (first.join second).parts = first.parts ++ second.addedParts := by
  have nonempty : first.text.isEmpty = false := by simpa using visible
  cases slash : first.endsInSlash with
  | true =>
      obtain ⟨chars, same⟩ : ∃ chars, first.text.toList = chars ++ ['/'] := by
        rw [endsInSlash, beq_iff_eq, List.getLast?_eq_some_iff] at slash
        exact slash
      refine parts_of_slash visible (.inr same) ?_
      simp [join, relative, slash, same]
  | false =>
      refine parts_of_slash visible (.inl rfl) ?_
      simp [join, relative, nonempty, slash]

theorem join_of_absolute (absolute : second.isAbsolute) : first.join second = second := by
  simp [join, absolute]

theorem join_of_empty (relative : ¬ second.isAbsolute) (empty : first.text = "") :
    first.join second = second := by
  simp [join, relative, empty]

/-- Only the empty path has no parts. -/
theorem parts_eq_nil_iff : path.parts = [] ↔ path.text = "" := by
  constructor
  · intro none
    obtain ⟨starts, unnamed⟩ := List.append_eq_nil_iff.1
      ((endedParts_eq path).symm.trans (List.map_eq_nil_iff.1 none))
    rw [← String.toList_eq_nil_iff]
    cases whole : path.text.toList with
    | nil => rfl
    | cons c chars =>
        by_cases slash : c = '/'
        · simp [lead, isAbsolute, whole, slash] at starts
        · -- The first segment has a text, and is a name, or the dot that the path starts with.
          obtain ⟨text, stop, rest, visible, split⟩ : ∃ text stop rest, text ≠ "" ∧
              segments (c :: chars) = (text, stop) :: rest := by
            obtain ⟨more, stop, rest, same⟩ := @exists_go chars [c] 1
            refine ⟨_, stop, rest, ?_, by rw [segments, segments.go, if_neg slash, same]⟩
            exact fun empty => List.cons_ne_nil c more (String.ofList_eq_empty_iff.1 empty)
          by_cases dot : text = "." <;>
            simp [lead, isAbsolute, whole, slash, split, dot, visible, named] at starts unnamed
  · rintro empty
    obtain rfl : path = ⟨""⟩ := by cases path; simpa using empty
    rfl

/-- What is put behind a path depends on the parts of that alone. -/
theorem parts_join_congr {other : Path} (same : first.parts = other.parts) :
    (first.join second).parts = (other.join second).parts := by
  by_cases absolute : second.isAbsolute
  · rw [join_of_absolute absolute, join_of_absolute absolute]
  · by_cases empty : first.text = ""
    · have both : other.text = "" := parts_eq_nil_iff.1 (same ▸ parts_eq_nil_iff.2 empty)
      rw [join_of_empty absolute empty, join_of_empty absolute both]
    · have both : other.text ≠ "" := fun empty' =>
        empty (parts_eq_nil_iff.1 (same.trans (parts_eq_nil_iff.2 empty')))
      rw [parts_join absolute empty, parts_join absolute both, same]

/-- A name behind a path is its last part, whatever the path. -/
theorem parts_join_plain (relative : ¬ second.isAbsolute) (plain : second.parts = second.addedParts) :
    (first.join second).parts = first.parts ++ second.addedParts := by
  by_cases empty : first.text = ""
  · rw [join_of_empty relative empty, plain, parts_eq_nil_iff.2 empty, List.nil_append]
  · exact parts_join relative empty

theorem prefix_join (relative : ¬ second.isAbsolute) :
    first.parts <+: (first.join second).parts := by
  by_cases empty : first.text = ""
  · rw [parts_eq_nil_iff.2 empty]
    exact List.nil_prefix
  · rw [parts_join relative empty]
    exact List.prefix_append _ _

end DeploymentLifecycle.Path
