import SchemaAtlas.Host.Basic

/-!
# File trees

A `FileTree` holds files and directories in memory.  A path is followed name by name, each through a
directory that exists, and double dots lead back up.
-/

namespace SchemaAtlas

/-- A file or a directory. -/
inductive FileNode where
  | directory
  | file (content : List UInt8)
  deriving DecidableEq

/-- Files and directories by the names that lead to them from the root. -/
structure FileTree where
  nodes : List (List String × FileNode) := []

namespace FileTree

/-- The kind of a node. -/
def kindOf : FileNode → FileKind
  | .directory => .directory
  | .file _ => .file

/-- The node at some names; the root is a directory. -/
def node? (tree : FileTree) (names : List String) : Option FileNode :=
  if names.isEmpty then some .directory
  else (tree.nodes.find? fun n => n.1 == names).map Prod.snd

/-- The tree with a node at some names. -/
def put (tree : FileTree) (names : List String) (node : FileNode) : FileTree :=
  ⟨(names, node) :: tree.nodes.filter fun n => n.1 != names⟩

/-- The names that a path leads to from `place`. -/
def walk (tree : FileTree) (place : List String) : List String → Except FileProblem (List String)
  | [] => .ok place
  | name :: rest =>
    match tree.node? place with
    | none => .error .missing
    | some (.file _) => .error .notDirectory
    | some .directory =>
      walk tree (if name == ".." then place.dropLast else place ++ [name]) rest

/-- The node that a path leads to. -/
def find? (tree : FileTree) (path : Path) : Option FileNode :=
  match tree.walk [] path.names with
  | .ok names => tree.node? names
  | .error _ => none

/-- The content of a file. -/
def read (tree : FileTree) (path : Path) : Except FileFault (List UInt8) :=
  match tree.walk [] path.names with
  | .error problem => .error ⟨problem, path⟩
  | .ok names =>
    match tree.node? names with
    | none => .error ⟨.missing, path⟩
    | some .directory => .error ⟨.isDirectory, path⟩
    | some (.file content) => .ok content

/-- The tree with a file that holds what `change` makes of its content. -/
def write (tree : FileTree) (path : Path) (change : List UInt8 → List UInt8) :
    Except FileFault FileTree :=
  match tree.walk [] path.names with
  | .error problem => .error ⟨problem, path⟩
  | .ok names =>
    match tree.node? names with
    | none => .ok (tree.put names (.file (change [])))
    | some .directory => .error ⟨.isDirectory, path⟩
    | some (.file content) => .ok (tree.put names (.file (change content)))

/-- The tree with a further directory. -/
def makeDirectory (tree : FileTree) (path : Path) : Except FileFault FileTree :=
  match tree.walk [] path.names with
  | .error problem => .error ⟨problem, path⟩
  | .ok names =>
    match tree.node? names with
    | none => .ok (tree.put names .directory)
    | some _ => .error ⟨.alreadyThere, path⟩

/-- The tree with a directory and all directories above it. -/
def withDirectory (tree : FileTree) (names : List String) : FileTree :=
  (List.range names.length).foldl (fun tree n =>
    let above := names.take (n + 1)
    if (tree.node? above).isSome then tree else tree.put above .directory) tree

/-- The tree with a file and all directories above it. -/
def withFile (tree : FileTree) (names : List String) (content : List UInt8) : FileTree :=
  (tree.withDirectory names.dropLast).put names (.file content)

theorem node?_put (tree : FileTree) (names other : List String) (node : FileNode)
    (h : other ≠ []) :
    (tree.put names node).node? other = if names = other then some node else tree.node? other := by
  have he : other.isEmpty = false := by simpa using h
  by_cases hn : names = other
  · simp [node?, put, hn, h]
  · have hf : (tree.nodes.filter fun n => n.1 != names).find? (fun n => n.1 == other) =
        tree.nodes.find? fun n => n.1 == other := by
      rw [List.find?_filter]
      congr 1
      funext n
      by_cases hx : n.1 = other <;> simp [hx, Ne.symm hn]
    simp [node?, put, he, hn, hf]

end FileTree

end SchemaAtlas
