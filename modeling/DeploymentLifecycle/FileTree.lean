import DeploymentLifecycle.IoError
import DeploymentLifecycle.Path

namespace DeploymentLifecycle

/-! A tree of directories, files and programs, and what the operations of a file system do to it. A
place in the tree is the list of the names that lead there. -/

inductive FileTree where
  | file (content : List UInt8)
  | program
  | directory (entries : List (String × FileTree))
deriving Repr, Inhabited

namespace FileTree

abbrev Place := List String

def entry? (tree : FileTree) (name : String) : Option FileTree :=
  match tree with
  | .directory entries => entries.lookup name
  | _ => none

def at? (tree : FileTree) : Place → Option FileTree
  | [] => some tree
  | name :: rest => do (← tree.entry? name).at? rest

/-- Puts an entry under a name, in place of one that is there. -/
def withEntry (entries : List (String × FileTree)) (name : String) (tree : FileTree) :
    List (String × FileTree) :=
  match entries with
  | [] => [(name, tree)]
  | (other, held) :: rest =>
    if other = name then (name, tree) :: rest else (other, held) :: withEntry rest name tree

/-- Puts a tree at a place whose directory exists. -/
def put (tree : FileTree) (place : Place) (item : FileTree) : FileTree :=
  match place, tree with
  | [], _ => item
  | name :: rest, .directory entries =>
    match rest, entries.lookup name with
    | [], _ => .directory (withEntry entries name item)
    | _, some held => .directory (withEntry entries name (held.put rest item))
    | _, none => tree
  | _, _ => tree

/-- Takes away what is at a place. -/
def erase (tree : FileTree) (place : Place) : FileTree :=
  match place, tree with
  | [name], .directory entries => .directory (entries.filter fun (held, _) => held != name)
  | name :: rest, .directory entries =>
    match entries.lookup name with
    | some held => .directory (withEntry entries name (held.erase rest))
    | none => tree
  | _, _ => tree

/-- The longest name of a directory entry, and the longest path, in bytes. -/
def longestName : Nat := 255
def longestPath : Nat := 4095

/-- Refuses a path that is looked up nowhere. -/
def checkPath (path : Path) : Except IoError Unit :=
  if path.text.toList.contains '\x00' then .error .nulInPath
  else if path.text.isEmpty then .error .notFound
  else if path.text.utf8ByteSize > longestPath then .error .nameTooLong
  else .ok ()

/-- The texts between the slashes of a path. -/
def steps (path : Path) : List String :=
  ((Path.segments path.text.toList).map Prod.fst).filter (· != "")

/-- The place a path starts from. -/
def start (current : Place) (path : Path) : Place :=
  if path.isAbsolute then [] else current

/-- Demands a directory at a place. -/
def enter (tree : FileTree) (place : Place) : Except IoError Unit :=
  match tree.at? place with
  | some (.directory _) => .ok ()
  | some _ => .error .notADirectory
  | none => .error .notFound

/-- The place of an entry of a directory. -/
def child (parent : Place) (name : String) : Except IoError Place :=
  if name.utf8ByteSize > longestName then .error .nameTooLong else .ok (parent ++ [name])

/-- Goes from a place along steps. All places before the last one have to be directories. -/
def walk (tree : FileTree) : Place → List String → Except IoError Place
  | place, [] => .ok place
  | place, step :: rest => do
    tree.enter place
    if step = "." then walk tree place rest
    else if step = ".." then walk tree place.dropLast rest
    else walk tree (← child place step) rest

/-- The place that a path names, seen from a directory. What a path with a slash at its end names has
to be a directory. -/
def locate (tree : FileTree) (current : Place) (path : Path) : Except IoError Place := do
  checkPath path
  tree.walk (start current path) (steps path ++ if path.endsInSlash then ["."] else [])

/-- The directory that a path leads to by all steps but the last one, and the last step, if it is a
name. -/
def approach (tree : FileTree) (current : Place) (path : Path) :
    Except IoError (Place × Option String) := do
  checkPath path
  let parent ← tree.walk (start current path) (steps path).dropLast
  tree.enter parent
  return (parent, (steps path).getLast?.filter fun step => step != "." && step != "..")

def exists? (tree : FileTree) (current : Place) (path : Path) : Bool :=
  match tree.locate current path with
  | .ok place => (tree.at? place).isSome
  | .error _ => false

def isDirectory (tree : FileTree) (current : Place) (path : Path) : Bool :=
  match (tree.locate current path).bind tree.enter with
  | .ok () => true
  | .error _ => false

def read (tree : FileTree) (current : Place) (path : Path) : Except IoError (List UInt8) := do
  match tree.at? (← tree.locate current path) with
  | some (.file content) => return content
  | some .program => return []
  | some (.directory _) => throw .isADirectory
  | none => throw .notFound

/-- Replaces the content of a file, or makes a new file in a directory that exists. -/
def write (tree : FileTree) (current : Place) (path : Path) (content : List UInt8) :
    Except IoError FileTree := do
  match ← tree.approach current path with
  | (parent, some name) =>
    if path.endsInSlash then throw .isADirectory
    let place ← child parent name
    match tree.at? place with
    | some (.directory _) => throw .isADirectory
    | _ => return tree.put place (.file content)
  | (_, none) => throw .isADirectory

/-- Makes a directory in one that exists. -/
def makeDirectory (tree : FileTree) (current : Place) (path : Path) : Except IoError FileTree := do
  match ← tree.approach current path with
  | (parent, some name) =>
    let place ← child parent name
    if (tree.at? place).isSome then throw .alreadyExists
    return tree.put place (.directory [])
  | (_, none) => throw .alreadyExists

/-- Makes a directory, unless there is one. -/
def ensureDirectory (tree : FileTree) (current : Place) (path : Path) : Except IoError FileTree :=
  match tree.makeDirectory current path with
  | .ok made => .ok made
  | .error cause =>
    if cause = .alreadyExists ∧ tree.isDirectory current path then .ok tree else .error cause

/-- Makes the first of some directories, of which each lies in the next one. Those that it lacks are
made before it, and stay even where it cannot be made itself. -/
def ensureFirst (tree : FileTree) (current : Place) : List Path → Except IoError Unit × FileTree
  | [] => (.ok (), tree)
  | path :: outer =>
    match tree.ensureDirectory current path with
    | .ok made => (.ok (), made)
    | .error cause =>
      if cause = .notFound then
        match tree.ensureFirst current outer with
        | (.error cause, made) => (.error cause, made)
        | (.ok (), made) =>
          match made.ensureDirectory current path with
          | .ok whole => (.ok (), whole)
          | .error cause => (.error cause, made)
      else (.error cause, tree)

/-- Makes a directory with all that lead to it. -/
def makeDirectories (tree : FileTree) (current : Place) (path : Path) :
    Except IoError Unit × FileTree :=
  tree.ensureFirst current path.lineage

/-- Moves a file over another one, or to a place in a directory that exists. -/
def rename (tree : FileTree) (current : Place) (source target : Path) : Except IoError FileTree := do
  let (sourceParent, sourceName) ← tree.approach current source
  let (targetParent, targetName) ← tree.approach current target
  match sourceName, targetName with
  | some sourceName, some targetName =>
    let place ← child sourceParent sourceName
    match tree.at? place with
    | none => throw .notFound
    | some item =>
      let goal ← child targetParent targetName
      if source.endsInSlash || target.endsInSlash then throw .notADirectory
      match tree.at? goal with
      | some (.directory _) => throw .isADirectory
      | _ => return (tree.erase place).put goal item
  | _, _ => throw .busy

end FileTree

end DeploymentLifecycle
