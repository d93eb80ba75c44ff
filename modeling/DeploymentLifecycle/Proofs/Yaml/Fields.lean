import DeploymentLifecycle.Proofs.Yaml.Opening
import DeploymentLifecycle.Yaml.Node

namespace DeploymentLifecycle.Yaml

/-! Which nodes the values of a block mapping are, by the tokens behind their keys. -/

/-- A node that is not this text: another scalar, or a collection. Aliases are not told apart. -/
def Node.IsOther (x : String) : Node → Prop
  | .scalar _ _ text => text ≠ x
  | .alias _ => False
  | .sequence .. | .mapping .. => True

namespace Parsing

variable {x key text : String} {s t : Parsing} {node : Node} {properties : Properties}
  {block unindented : Bool} {fuel : Nat} {rest : List Token} {anchors : List (String × Nat)}
  {handles : List (String × Tag)} {fields : List (Node × Node)}

theorem content?_other (named : x ≠ "") (other : isOther x s.tokens = true)
    (read : content? block unindented properties fuel s = some (node, t)) : node.IsOther x := by
  have leftOut : ∀ {found : Node × Parsing}, (if properties = {} then none
      else some (.scalar properties .plain "", s)) = some found → found.1.IsOther x := by
    intro found read
    split at read <;> cases read
    exact named.symm
  cases fuel with
  | zero => cases read
  | succ fuel =>
    rw [content?] at read
    dsimp only at read
    split at read
    · next here =>
      cases read
      rw [here] at other
      exact ne_of_beq_false (by simpa [isOther] using other)
    · obtain ⟨_, _, read⟩ := Option.bind_eq_some_iff.1 read
      cases read
      trivial
    · obtain ⟨_, _, read⟩ := Option.bind_eq_some_iff.1 read
      cases read
      trivial
    · split at read
      · obtain ⟨_, _, read⟩ := Option.bind_eq_some_iff.1 read
        cases read
        trivial
      · exact leftOut read
    · split at read
      · obtain ⟨_, _, read⟩ := Option.bind_eq_some_iff.1 read
        cases read
        trivial
      · exact leftOut read
    · split at read
      · obtain ⟨_, _, read⟩ := Option.bind_eq_some_iff.1 read
        cases read
        trivial
      · exact leftOut read
    · exact leftOut read

theorem properties?_other (other : isOther x s.tokens = true)
    (read : s.properties? = some (properties, t)) : isOther x t.tokens = true := by
  rw [properties?] at read
  split at read
  · next rest here =>
    obtain ⟨_, _, read⟩ := Option.bind_eq_some_iff.1 read
    have moved : t.tokens = rest := by split at read <;> cases read <;> rfl
    rw [moved]
    split at here <;> cases here
    · next same =>
      rw [same] at other
      exact other
    · next same =>
      rw [same] at other
      exact other
    · next same =>
      rw [same] at other
      exact other
    · next same =>
      rw [same] at other
      exact other
    · exact other

theorem node?_other (named : x ≠ "") (unanchored : s.anchors = []) (other : isOther x s.tokens = true)
    (read : node? block unindented fuel s = some (node, t)) : node.IsOther x := by
  cases fuel with
  | zero => cases read
  | succ fuel =>
    rw [node?] at read
    split at read
    · obtain ⟨_, found, _⟩ := Option.bind_eq_some_iff.1 read
      rw [unanchored] at found
      cases found
    · obtain ⟨⟨properties, s⟩, first, read⟩ := Option.bind_eq_some_iff.1 read
      exact content?_other named (properties?_other other first) read

/-- The value of a key is what comes behind it, if anything does. -/
def value? (fuel : Nat) (s : Parsing) : Option (Node × Parsing) :=
  if startsBlockNode s.tokens then node? true true fuel s else some (Node.empty, s)

theorem value?_other (named : x ≠ "") (unanchored : s.anchors = []) (other : isOther x s.tokens = true)
    (read : value? fuel s = some (node, t)) : node.IsOther x := by
  rw [value?] at read
  split at read
  · exact node?_other named unanchored other read
  · cases read
    exact named.symm

theorem value?_plain (read : value? fuel ⟨.scalar .plain text :: rest, anchors, handles⟩ =
    some (node, t)) : node = .scalar {} .plain text ∧ t = ⟨rest, anchors, handles⟩ := by
  rcases fuel with _ | _ | fuel <;> cases read
  exact ⟨rfl, rfl⟩

theorem node?_mapping
    (read : node? true unindented fuel ⟨.mappingStart :: rest, anchors, handles⟩ = some (node, t)) :
    ∃ fields less, node = .mapping {} fields ∧
      blockFields? less ⟨rest, anchors, handles⟩ = some (fields, t) := by
  rcases fuel with _ | _ | fuel
  · cases read
  · cases read
  · obtain ⟨⟨fields, s⟩, found, read⟩ := Option.bind_eq_some_iff.1
      (show (blockFields? fuel ⟨rest, anchors, handles⟩).bind _ = some (node, t) from read)
    cases read
    exact ⟨fields, fuel, rfl, found⟩

theorem blockFields?_end (read : blockFields? fuel ⟨.blockEnd :: rest, anchors, handles⟩ =
    some (fields, t)) : fields = [] ∧ t = ⟨rest, anchors, handles⟩ := by
  cases fuel <;> cases read
  exact ⟨rfl, rfl⟩

theorem blockFields?_field
    (read : blockFields? fuel ⟨.key :: .scalar .plain key :: .value :: rest, anchors, handles⟩ =
      some (fields, t)) :
    ∃ value later s less, fields = (.scalar {} .plain key, value) :: later ∧
      value? less ⟨rest, anchors, handles⟩ = some (value, s) ∧
      blockFields? less s = some (later, t) := by
  rcases fuel with _ | _ | _ | fuel
  · cases read
  · cases read
  · cases read
  · have field : blockFields? (fuel + 3)
        ⟨.key :: .scalar .plain key :: .value :: rest, anchors, handles⟩ =
          (value? (fuel + 2) ⟨rest, anchors, handles⟩).bind fun first =>
            (blockFields? (fuel + 2) first.2).bind fun later =>
              some ((.scalar {} .plain key, first.1) :: later.1, later.2) := by
      have first : node? true true (fuel + 2)
          ⟨.scalar .plain key :: .value :: rest, anchors, handles⟩ =
            some (.scalar {} .plain key, ⟨.value :: rest, anchors, handles⟩) := rfl
      have starts : startsBlockNode (.scalar .plain key :: .value :: rest) = true := rfl
      rw [blockFields?]
      simp only [starts, if_true, move, first, Option.bind_eq_bind, Option.bind_some]
      rw [value?]
      dsimp only
      split <;> rfl
    rw [field] at read
    obtain ⟨⟨value, s⟩, found, read⟩ := Option.bind_eq_some_iff.1 read
    obtain ⟨⟨later, s⟩, further, read⟩ := Option.bind_eq_some_iff.1 read
    cases read
    exact ⟨value, later, _, fuel + 2, rfl, found, further⟩

/-- A document that starts with a key is a block mapping. -/
theorem document?_mapping (read : document? (.mappingStart :: rest) = some node) :
    ∃ fields less t, node = .mapping {} fields ∧ blockFields? less ⟨rest, [], []⟩ = some (fields, t) := by
  obtain ⟨⟨found, t⟩, first, read⟩ := Option.bind_eq_some_iff.1
    (show (node? true false (3 * (Token.mappingStart :: rest).length + 3)
      ⟨.mappingStart :: rest, [], []⟩).bind _ = some node from read)
  dsimp only at read
  split at read <;> cases read
  obtain ⟨fields, less, same, fieldsRead⟩ := node?_mapping first
  exact ⟨fields, less, t, same, fieldsRead⟩

end Parsing

end DeploymentLifecycle.Yaml
