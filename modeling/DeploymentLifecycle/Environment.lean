namespace DeploymentLifecycle

/-! Environment variables. A system holds each as one text, the name and the value with an equals sign
between them. -/

structure Environment where
  entries : List String := []
deriving Repr, Inhabited

namespace Environment

def ofList (values : List (String × String)) : Environment :=
  ⟨values.map fun (name, value) => name ++ "=" ++ value⟩

/-- Whether a variable can be asked for by that name. -/
def isName (name : String) : Bool :=
  !name.isEmpty && !name.toList.contains '\x00'

/-- What an entry holds behind a name and an equals sign. -/
def valueIn? (name entry : String) : Option String :=
  let start := (name ++ "=").toList
  if start.isPrefixOf entry.toList then some (String.ofList (entry.toList.drop start.length))
  else none

/-- The value in the first entry that is one of the name. The name may itself hold an equals sign:
entries do not tell where their names end. -/
def get? (environment : Environment) (name : String) : Option String :=
  if isName name then environment.entries.findSome? (valueIn? name) else none

end Environment

end DeploymentLifecycle
