import DeploymentLifecycle.FileTree
import DeploymentLifecycle.Text.Utf8

namespace DeploymentLifecycle.FileTree

/-! Trees from the contents of their files, and back. -/

/-- The tree with a directory and all that lead to it. -/
def withDirectories (tree : FileTree) (current : Place) (path : Path) : Except IoError FileTree :=
  let (outcome, made) := tree.makeDirectories current path
  outcome.map fun _ => made

/-- Puts an item at a path, with the directories that lead there. -/
def insert (tree : FileTree) (current : Place) (path : Path) (item : FileTree) :
    Except IoError FileTree := do
  let tree ← match path.parent? with
    | some parent => tree.withDirectories current parent
    | none => pure tree
  return tree.put (← tree.locate current path) item

/-- Puts files with their texts; a path with a slash at its end is that of a directory. -/
def insertAll (tree : FileTree) (current : Place) (files : List (String × String)) :
    Except IoError FileTree :=
  files.foldlM (fun tree (path, text) =>
    if (Path.mk path).endsInSlash then tree.withDirectories current ⟨path⟩
    else tree.insert current ⟨path⟩ (.file (Text.encode text))) tree

/-- Takes away what a path names, if anything. -/
def remove (tree : FileTree) (current : Place) (path : Path) : FileTree :=
  match tree.locate current path with
  | .ok place => tree.erase place
  | .error _ => tree

mutual

/-- The paths of all files with what they hold, and the paths of all directories, each with a slash
at its end. Programs hold nothing that can be read and are left out. -/
def contents : FileTree → List (String × Option (List UInt8))
  | .directory entries => entriesContents entries
  | _ => []

def entriesContents : List (String × FileTree) → List (String × Option (List UInt8))
  | [] => []
  | (name, entry) :: rest =>
    let inner := contents entry
    let here := match entry with
      | .file content => [(name, some content)]
      | .program => []
      | .directory _ =>
        (name ++ "/", none) :: inner.map fun (path, content) => (name ++ "/" ++ path, content)
    here ++ entriesContents rest

end

end DeploymentLifecycle.FileTree
