namespace DeploymentLifecycle

/-! Paths as texts. Nothing is normalised: what was written stays, and only the comparison of parts
looks past doubled slashes and single dots. -/

/-- A path, absolute if it starts with a slash. -/
structure Path where
  text : String
deriving DecidableEq, Repr, Inhabited

namespace Path

inductive Part where
  | root
  | here
  | up
  | name (text : String)
deriving DecidableEq, Repr

def isAbsolute (path : Path) : Bool :=
  path.text.toList.head? == some '/'

def endsInSlash (path : Path) : Bool :=
  path.text.toList.getLast? == some '/'

/-- `second` seen from `first`: an absolute path replaces the first one, any other is put behind
it. -/
def join (first second : Path) : Path :=
  if second.isAbsolute then second
  else if first.text.isEmpty || first.endsInSlash then
    ⟨first.text ++ second.text⟩
  else ⟨first.text ++ "/" ++ second.text⟩

/-- The texts between slashes, each with the count of characters up to its end. -/
def segments (chars : List Char) : List (String × Nat) :=
  go [] 0 chars
where
  go (held : List Char) (count : Nat) : List Char → List (String × Nat)
    | [] => [(String.ofList held.reverse, count)]
    | c :: rest =>
      if c = '/' then (String.ofList held.reverse, count) :: go [] (count + 1) rest
      else go (c :: held) (count + 1) rest

def partOf (segment : String) : Part :=
  if segment = ".." then .up else .name segment

/-- The parts of a path, each with the count of characters up to its end. Empty texts and single dots
are no parts, except a dot at the very start. -/
def endedParts (path : Path) : List (Part × Nat) :=
  let named (pieces : List (String × Nat)) : List (Part × Nat) :=
    (pieces.filter fun (text, _) => text != "" && text != ".").map fun (text, count) =>
      (partOf text, count)
  let pieces := segments path.text.toList
  if path.isAbsolute then (.root, 1) :: named pieces
  else
    match pieces with
    | (".", count) :: rest => (.here, count) :: named rest
    | _ => named pieces

def parts (path : Path) : List Part :=
  path.endedParts.map Prod.fst

/-- The path up to its last part; there is none for the root and the empty path. -/
def parent? (path : Path) : Option Path :=
  match path.endedParts.reverse with
  | (.root, _) :: _ => none
  | _ :: (_, count) :: _ => some ⟨String.ofList (path.text.toList.take count)⟩
  | _ :: [] => some ⟨""⟩
  | [] => none

/-- A path, the one it lies in, and so on outwards, without the root and the empty path. -/
def lineage (path : Path) : List Path :=
  match (path.endedParts.filter fun (part, _) => part != .root).reverse with
  | [] => []
  | _ :: outer => path :: outer.map fun (_, count) => ⟨String.ofList (path.text.toList.take count)⟩

/-- The last part, if it is a name. -/
def fileName? (path : Path) : Option String :=
  match path.parts.getLast? with
  | some (.name text) => some text
  | _ => none

/-- The path with its last name replaced; a path without a name gets one added. -/
def withFileName (path : Path) (name : String) : Path :=
  match path.fileName?, path.parent? with
  | some _, some parent => parent.join ⟨name⟩
  | _, _ => path.join ⟨name⟩

/-- Whether the last part is the given name. -/
def endsWith (path : Path) (name : String) : Bool :=
  path.parts.getLast? == some (.name name)

end Path

end DeploymentLifecycle
