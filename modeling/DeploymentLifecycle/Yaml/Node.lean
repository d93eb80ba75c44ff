import DeploymentLifecycle.Yaml.Lexing

namespace DeploymentLifecycle.Yaml

/-! Documents as trees of scalars, sequences, mappings and aliases. -/

/-- What may stand in front of a node: an anchor, known by its number, and a tag. -/
structure Properties where
  anchor : Option Nat := none
  tag : Option Tag := none
deriving DecidableEq, Repr, Inhabited

/-- A node of a document. An alias holds the number of an anchor, whose node it stands for. -/
inductive Node where
  | scalar (properties : Properties) (style : Style) (text : String)
  | sequence (properties : Properties) (items : List Node)
  | mapping (properties : Properties) (fields : List (Node × Node))
  | alias (anchor : Nat)
deriving Repr, Inhabited

namespace Node

/-- A scalar that is left out. -/
def empty : Node := .scalar {} .plain ""

mutual

/-- How many parts a node is written with: one for a scalar or an alias, and for a collection two
beside those of its items. -/
def parts : Node → Nat
  | .scalar .. | .alias _ => 1
  | .sequence _ items => 2 + itemsParts items
  | .mapping _ fields => 2 + fieldsParts fields

def itemsParts : List Node → Nat
  | [] => 0
  | item :: rest => parts item + itemsParts rest

def fieldsParts : List (Node × Node) → Nat
  | [] => 0
  | (key, value) :: rest => parts key + parts value + fieldsParts rest

end

/-- A node under the number of its anchor, if it has one. -/
def entry (properties : Properties) (node : Node) : List (Nat × Node) :=
  match properties.anchor with
  | some anchor => [(anchor, node)]
  | none => []

mutual

/-- The nodes that have anchors, in the order in which they start. -/
def anchored : Node → List (Nat × Node)
  | node@(.scalar properties _ _) => entry properties node
  | node@(.sequence properties items) => entry properties node ++ itemsAnchored items
  | node@(.mapping properties fields) => entry properties node ++ fieldsAnchored fields
  | .alias _ => []

def itemsAnchored : List Node → List (Nat × Node)
  | [] => []
  | item :: rest => anchored item ++ itemsAnchored rest

def fieldsAnchored : List (Node × Node) → List (Nat × Node)
  | [] => []
  | (key, value) :: rest => anchored key ++ anchored value ++ fieldsAnchored rest

end

end Node

/-- The tokens still to come, the anchors met so far with their numbers, and the handles of tags. -/
structure Parsing where
  tokens : List Token
  anchors : List (String × Nat) := []
  handles : List (String × Tag) := []

namespace Parsing

def move (s : Parsing) (tokens : List Token) : Parsing :=
  { s with tokens }

def standardHandles : List (String × Tag) :=
  [("!", Text.encode "!"), ("!!", Text.encode "tag:yaml.org,2002:")]

/-- The name of a tag in full. -/
def tagName? (s : Parsing) (handle : String) (suffix : Tag) : Option Tag :=
  if handle.isEmpty then some suffix
  else ((s.handles ++ standardHandles).lookup handle).map (· ++ suffix)

/-- An anchor's number is the count of the names that are known before it. A name that comes again
stands for the new number; so two names may come to share one. -/
def meet (s : Parsing) (name : String) : Nat × Parsing :=
  let number := s.anchors.length
  (number, { s with anchors := (name, number) :: s.anchors.filter fun (known, _) => known != name })

/-- The anchor and the tag in front of a node, which come in either order. -/
def properties? (s : Parsing) : Option (Properties × Parsing) := do
  let (anchor, tag, rest) := match s.tokens with
    | .anchor name :: .tag handle suffix :: rest => (some name, some (handle, suffix), rest)
    | .tag handle suffix :: .anchor name :: rest => (some name, some (handle, suffix), rest)
    | .anchor name :: rest => (some name, none, rest)
    | .tag handle suffix :: rest => (none, some (handle, suffix), rest)
    | rest => (none, none, rest)
  let tag ← tag.mapM fun (handle, suffix) => s.tagName? handle suffix
  match anchor with
  | some name =>
    let (number, s) := (s.move rest).meet name
    return (⟨some number, tag⟩, s)
  | none => return (⟨none, tag⟩, s.move rest)

def startsBlockNode : List Token → Bool
  | .key :: _ | .value :: _ | .blockEnd :: _ => false
  | _ => true

def startsFlowNode (close : Token) : List Token → Bool
  | .value :: _ | .flowEntry :: _ => false
  | token :: _ => token != close
  | [] => true

mutual

/-- A node with its properties. Block collections are read only where `block` holds, and a sequence
that is not indented only as a key or value of a block mapping. -/
def node? (block unindented : Bool) : Nat → Parsing → Option (Node × Parsing)
  | 0, _ => none
  | fuel + 1, s =>
    match s.tokens with
    | .alias name :: rest => do return (.alias (← s.anchors.lookup name), s.move rest)
    | _ => do
      let (properties, s) ← s.properties?
      content? block unindented properties fuel s

/-- What follows a node's properties. Nothing need follow them where there are any. -/
def content? (block unindented : Bool) (properties : Properties) :
    Nat → Parsing → Option (Node × Parsing)
  | 0, _ => none
  | fuel + 1, s =>
    let leftOut := if properties = {} then none else some (.scalar properties .plain "", s)
    match s.tokens with
    | .scalar style text :: rest => some (.scalar properties style text, s.move rest)
    | .flowSequenceStart :: rest => do
      let (items, s) ← flowItems? true fuel (s.move rest)
      return (.sequence properties items, s)
    | .flowMappingStart :: rest => do
      let (fields, s) ← flowFields? true fuel (s.move rest)
      return (.mapping properties fields, s)
    | .sequenceStart :: rest =>
      if block then do
        let (items, s) ← blockItems? fuel (s.move rest)
        return (.sequence properties items, s)
      else leftOut
    | .mappingStart :: rest =>
      if block then do
        let (fields, s) ← blockFields? fuel (s.move rest)
        return (.mapping properties fields, s)
      else leftOut
    | .entry :: _ =>
      if unindented then do
        let (items, s) ← unindentedItems? fuel s
        return (.sequence properties items, s)
      else leftOut
    | _ => leftOut

/-- The items of a block sequence, up to its end. -/
def blockItems? : Nat → Parsing → Option (List Node × Parsing)
  | 0, _ => none
  | fuel + 1, s =>
    match s.tokens with
    | .blockEnd :: rest => some ([], s.move rest)
    | .entry :: rest => do
      let (item, s) ← match rest with
        | .entry :: _ | .blockEnd :: _ => some (Node.empty, s.move rest)
        | _ => node? true false fuel (s.move rest)
      let (items, s) ← blockItems? fuel s
      return (item :: items, s)
    | _ => none

/-- The items of a sequence that is not indented. It ends where no other item comes. -/
def unindentedItems? : Nat → Parsing → Option (List Node × Parsing)
  | 0, _ => none
  | fuel + 1, s =>
    match s.tokens with
    | .entry :: rest => do
      let (item, s) ← match rest with
        | .entry :: _ => some (Node.empty, s.move rest)
        | _ =>
          if startsBlockNode rest then node? true false fuel (s.move rest)
          else some (Node.empty, s.move rest)
      let (items, s) ← unindentedItems? fuel s
      return (item :: items, s)
    | _ => some ([], s)

/-- The fields of a block mapping, up to its end. -/
def blockFields? : Nat → Parsing → Option (List (Node × Node) × Parsing)
  | 0, _ => none
  | fuel + 1, s =>
    match s.tokens with
    | .blockEnd :: rest => some ([], s.move rest)
    | .key :: rest => do
      let (key, s) ←
        if startsBlockNode rest then node? true true fuel (s.move rest)
        else some (Node.empty, s.move rest)
      let (value, s) ← match s.tokens with
        | .value :: rest =>
          if startsBlockNode rest then node? true true fuel (s.move rest)
          else some (Node.empty, s.move rest)
        | _ => some (Node.empty, s)
      let (fields, s) ← blockFields? fuel s
      return ((key, value) :: fields, s)
    | _ => none

/-- The items of a flow sequence, up to its closing bracket. Between two of them stands a comma. -/
def flowItems? (first : Bool) : Nat → Parsing → Option (List Node × Parsing)
  | 0, _ => none
  | fuel + 1, s =>
    match s.tokens with
    | .flowSequenceEnd :: rest => some ([], s.move rest)
    | tokens =>
      let tokens? := match first, tokens with
        | true, _ => some tokens
        | false, .flowEntry :: rest => some rest
        | false, _ => none
      match tokens? with
      | none => none
      | some (.flowSequenceEnd :: rest) => some ([], s.move rest)
      | some (.key :: rest) => do
        let (item, s) ← flowPair? fuel (s.move rest)
        let (items, s) ← flowItems? false fuel s
        return (item :: items, s)
      | some tokens => do
        let (item, s) ← node? false false fuel (s.move tokens)
        let (items, s) ← flowItems? false fuel s
        return (item :: items, s)

/-- A single key and value that is an item of a flow sequence. Where the key is left out, the token
in its place is passed over. -/
def flowPair? : Nat → Parsing → Option (Node × Parsing)
  | 0, _ => none
  | fuel + 1, s => do
    let (key, s) ←
      if startsFlowNode .flowSequenceEnd s.tokens then node? false false fuel s
      else some (Node.empty, s.move (s.tokens.drop 1))
    let (value, s) ← match s.tokens with
      | .value :: rest =>
        match rest with
        | .flowEntry :: _ | .flowSequenceEnd :: _ => some (Node.empty, s.move rest)
        | _ => node? false false fuel (s.move rest)
      | _ => some (Node.empty, s)
    return (.mapping {} [(key, value)], s)

/-- The fields of a flow mapping, up to its closing brace. -/
def flowFields? (first : Bool) : Nat → Parsing → Option (List (Node × Node) × Parsing)
  | 0, _ => none
  | fuel + 1, s =>
    match s.tokens with
    | .flowMappingEnd :: rest => some ([], s.move rest)
    | tokens =>
      let tokens? := match first, tokens with
        | true, _ => some tokens
        | false, .flowEntry :: rest => some rest
        | false, _ => none
      match tokens? with
      | none => none
      | some (.flowMappingEnd :: rest) => some ([], s.move rest)
      | some (.key :: rest) => do
        let (key, s) ←
          if startsFlowNode .flowMappingEnd rest then node? false false fuel (s.move rest)
          else some (Node.empty, s.move rest)
        let (value, s) ← match s.tokens with
          | .value :: rest =>
            match rest with
            | .flowEntry :: _ | .flowMappingEnd :: _ => some (Node.empty, s.move rest)
            | _ => node? false false fuel (s.move rest)
          | _ => some (Node.empty, s)
        let (fields, s) ← flowFields? false fuel s
        return ((key, value) :: fields, s)
      | some tokens => do
        let (key, s) ← node? false false fuel (s.move tokens)
        let (fields, s) ← flowFields? false fuel s
        return ((key, Node.empty) :: fields, s)

end

/-- The directives in front of a document: at most one version, 1.1 or 1.2, and handles of tags, each
once. -/
def directives? : Bool → List (String × Tag) → List Token →
    Option (List (String × Tag) × List Token)
  | versioned, handles, .version major minor :: rest =>
    if versioned || major != 1 || (minor != 1 && minor != 2) then none
    else directives? true handles rest
  | versioned, handles, .tagHandle handle start :: rest =>
    if (handles.lookup handle).isSome then none
    else directives? versioned ((handle, start) :: handles) rest
  | _, handles, tokens => some (handles, tokens)

def startsDocument : List Token → Bool
  | .version .. :: _ | .tagHandle .. :: _ | .documentStart :: _ => true
  | _ => false

/-- Whether only ends of documents are left. -/
def isOver (tokens : List Token) : Bool :=
  tokens.all (· == .documentEnd)

/-- The one document of the tokens; without any token it is a scalar that is left out. A node is
followed by its items at most, and every token is read in at most three nested steps. -/
def document? (tokens : List Token) : Option Node := do
  let (handles, body) ←
    if startsDocument tokens then
      match ← directives? false [] tokens with
      | (handles, .documentStart :: rest) => some (handles, rest)
      | _ => none
    else some ([], tokens)
  let isEmpty :=
    if startsDocument tokens then
      body.isEmpty || startsDocument body || body.head? == some .documentEnd
    else tokens.isEmpty
  let (node, s) ←
    if isEmpty then some (Node.empty, ({ tokens := body } : Parsing))
    else node? true false (3 * body.length + 3) { tokens := body, handles }
  if isOver s.tokens then return node else none

end Parsing

/-- The one document that a text holds. -/
def Node.ofText? (text : String) : Option Node := do
  Parsing.document? (← tokens? text)

end DeploymentLifecycle.Yaml
