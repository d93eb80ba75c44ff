namespace DeploymentLifecycle.Yaml

/-! The lexical units of YAML. Indentation is already turned into starts and ends of blocks. -/

inductive Style where
  | plain | singleQuoted | doubleQuoted | literal | folded
deriving DecidableEq, Repr

/-- The name of a tag, as bytes: what is escaped in it need not be text. -/
abbrev Tag := List UInt8

inductive Token where
  | version (major minor : Nat)
  | tagHandle (handle : String) (start : Tag)
  | documentStart
  | documentEnd
  | sequenceStart
  | mappingStart
  | blockEnd
  | flowSequenceStart
  | flowSequenceEnd
  | flowMappingStart
  | flowMappingEnd
  | entry
  | flowEntry
  | key
  | value
  | alias (name : String)
  | anchor (name : String)
  | tag (handle : String) (suffix : Tag)
  | scalar (style : Style) (text : String)
deriving DecidableEq, Repr

end DeploymentLifecycle.Yaml
