import DeploymentLifecycle.Yaml.Reading

namespace DeploymentLifecycle

/-! A text that is given in the configuration or taken from the environment, so that a password need
not stand in a file. -/

inductive Setting where
  | literal (text : String)
  | variable (name : String) (fallback : Option String)
deriving DecidableEq, Repr

namespace Setting

/-- The text, given the values of environment variables; a name without value or fallback is the
error. A variable that is set to the empty text is set. -/
def resolve (setting : Setting) (value : String → Option String) : Except String String :=
  match setting with
  | .literal text => .ok text
  | .variable name fallback =>
    match value name with
    | some text => .ok text
    | none =>
      match fallback with
      | some text => .ok text
      | none => .error name

/-- A scalar that is text, and no number, boolean or null. -/
def text? : Yaml.Value → Option String
  | .scalar (.text text) => some text
  | _ => none

/-- The fields of the mapping form, in order; a field may also be named by its number. -/
def fieldNames : List String := ["env", "default"]

/-- The name of a field; numbers that are no field's are other names. -/
def fieldName? : Yaml.Value → Option String
  | .scalar (.text name) => some name
  | .scalar (.natural index) => some (fieldNames[index]?.getD "")
  | _ => none

/-- The fallback that a field holds, which may be null. -/
def fallback? : Yaml.Value → Option (Option String)
  | .scalar .null => some none
  | value => (text? value).map some

/-- A setting is a text, or a mapping with the name of a variable and possibly a fallback. -/
def ofValue? : Yaml.Value → Option Setting
  | .mapping fields => do
    let named ← fields.mapM fun (key, value) => do return (← fieldName? key, value)
    let name ← text? (← ← Yaml.uniqueField? named "env")
    match ← Yaml.uniqueField? named "default" with
    | none => return .variable name none
    | some value => return .variable name (← fallback? value)
  | value => (text? value).map .literal

/-- Reads a setting, inside which at most `nesting` collections are nested. It has to be a value as a
whole, with the fields that are ignored. -/
def ofNode (nesting : Nat) (node : Yaml.Node) : Yaml.Reading Setting := do
  ofValue? (← node.toValue nesting)

/-- Reads a setting that is a whole document. -/
def ofYaml? (text : String) : Option Setting := do
  (← Yaml.Node.ofText? text).read? (ofNode Yaml.deepest)

end Setting

end DeploymentLifecycle
