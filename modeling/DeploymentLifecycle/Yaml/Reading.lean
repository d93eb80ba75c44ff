import DeploymentLifecycle.Yaml.Core
import DeploymentLifecycle.Yaml.Node

namespace DeploymentLifecycle.Yaml

/-! What is taken out of a document: texts, numbers, records, lists and untyped values. Nothing is
demanded of parts that are not taken out. -/

/-- A step of taking a document apart. It can look up the nodes that have anchors, and it counts down
how many aliases may still be followed. -/
abbrev Reading := ReaderT (List (Nat × Node)) (StateT Nat Option)

/-- How many aliases may be followed for each part that a document is written with. -/
def aliasesPerPart : Nat := 100

/-- How deep the collections of what is taken out may be nested. -/
def deepest : Nat := 128

/-- Takes a whole document apart. Of the nodes whose anchors share a number the last one counts. -/
def Node.read? (document : Node) (reading : Node → Reading α) : Option α :=
  ((reading document).run document.anchored.reverse).run' (aliasesPerPart * document.parts)

/-- Reads a field that may be missing. -/
def Reading.optional (reading : Node → Reading α) : Option Node → Reading (Option α)
  | none => return none
  | some node => some <$> reading node

/-- A value of any kind; so may be the keys of its mappings. -/
inductive Value where
  | scalar (value : ScalarValue)
  | sequence (items : List Value)
  | mapping (fields : List (Value × Value))
deriving Repr, Inhabited

/-- The field of a name. It may be missing, but not be there twice. -/
def uniqueField? (fields : List (String × α)) (name : String) : Option (Option α) :=
  match fields.filter fun (key, _) => key = name with
  | [] => some none
  | [(_, value)] => some (some value)
  | _ => none

namespace Node

/-- The node that an alias stands for; any other stands for itself. -/
def follow (node : Node) : Reading Node :=
  match node with
  | .alias anchor => do
    match ← get with
    | 0 => failure
    | left + 1 =>
      set left
      (← read).lookup anchor
  | _ => return node

/-- The text of any scalar, as written. -/
def text (node : Node) : Reading String := do
  match ← node.follow with
  | .scalar _ _ text => return text
  | _ => failure

/-- Whether a node that may be null is: a plain scalar is when it is left out or spelt so. Under the
tag of null no other plain scalar may stand, and under another tag none is null. -/
def isNull? : Node → Option Bool
  | .scalar ⟨_, none⟩ .plain text => some (text.isEmpty || Yaml.isNull text)
  | .scalar ⟨_, some tag⟩ .plain text =>
    if tag = coreTag "null" then if Yaml.isNull text then some true else none else some false
  | _ => some false

/-- Reads a node that may be null. -/
def nullable (reading : Node → Reading α) (node : Node) : Reading (Option α) := do
  let target ← node.follow
  if ← target.isNull? then return none else some <$> reading target

/-- A non-negative integer up to `limit`, not in quotes. -/
def natural (limit : Nat) (node : Node) : Reading Nat := do
  match ← node.follow with
  | .scalar properties style text =>
    if style = .plain ∨ (style = .literal ∧ properties.tag = some (coreTag "int")) then
      (natural? text.toList).filter (· ≤ limit)
    else failure
  | _ => failure

/-- The items of a sequence; none when it is left out. -/
def items (node : Node) : Reading (List Node) := do
  match ← node.follow with
  | .sequence _ items => return items
  | .scalar _ .plain "" => return []
  | _ => failure

/-- The fields of a mapping; none when it is left out. -/
def fields (node : Node) : Reading (List (Node × Node)) := do
  match ← node.follow with
  | .mapping _ fields => return fields
  | .scalar _ .plain "" => return []
  | _ => failure

/-- The texts of the items of a sequence. -/
def texts (node : Node) : Reading (List String) := do
  (← node.items).mapM text

/-- The values of a mapping under `names`, in the order of `names`. Other names are ignored. -/
def record (names : List String) (node : Node) : Reading (List (Option Node)) := do
  let named ← (← node.fields).mapM fun (key, value) => do return (← key.text, value)
  names.mapM (uniqueField? named ·)

/-- The value of a scalar that may be anything. -/
def scalarValue (properties : Properties) (style : Style) (text : String) : Reading ScalarValue :=
  scalarValue? properties.tag style text

/-- Refuses a collection with a tag of the application's own. -/
def refuseLocal (properties : Properties) : Reading Unit :=
  if properties.tag.any isLocalTag then failure else return

/-- A value of any kind in which at most `nesting` collections are nested. -/
def toValue : Nat → Node → Reading Value
  | nesting, node => do
    match ← node.follow with
    | .scalar properties style text => return .scalar (← scalarValue properties style text)
    | .sequence properties items =>
      refuseLocal properties
      match nesting with
      | 0 => failure
      | nesting + 1 => return .sequence (← items.mapM (toValue nesting))
    | .mapping properties fields =>
      refuseLocal properties
      match nesting with
      | 0 => failure
      | nesting + 1 =>
        return .mapping (← fields.mapM fun (key, value) => do
          return (← toValue nesting key, ← toValue nesting value))
    | .alias _ => failure

/-- A value of any kind in JSON, with the keys as they are written. -/
def toJson : Nat → Node → Reading Json
  | nesting, node => do
    match ← node.follow with
    | .scalar properties style text => return (← scalarValue properties style text).toJson
    | .sequence properties items =>
      refuseLocal properties
      match nesting with
      | 0 => failure
      | nesting + 1 => return .array (← items.mapM (toJson nesting))
    | .mapping properties fields =>
      refuseLocal properties
      match nesting with
      | 0 => failure
      | nesting + 1 =>
        return .object <| Json.Fields.ofList (← fields.mapM fun (key, value) => do
          return (← key.text, ← toJson nesting value))
    | .alias _ => failure

/-- The fields of a mapping as a map from texts to values in JSON. -/
def toJsonFields (nesting : Nat) (node : Node) : Reading Json.Fields := do
  match nesting with
  | 0 => failure
  | nesting + 1 =>
    return Json.Fields.ofList (← (← node.fields).mapM fun (key, value) => do
      return (← key.text, ← value.toJson nesting))

end Node

end DeploymentLifecycle.Yaml
