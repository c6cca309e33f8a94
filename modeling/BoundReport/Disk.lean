import BoundReport.FilePath

/-!
# Disks

All that the program asks of a file system is in `Disk`: whether a path is a file or a
directory, the text of a file, directories to be made, and a text to be written. The program is
written for any disk, in any monad.

A **file tree** is such a disk as a value: directories hold files and further directories by
their names. A relative path starts at the working directory of the tree. As on any Unix system,
a path leads somewhere only if each step but the last is taken from a directory that exists, a
path that ends in a slash or a dot has to lead to a directory, and there is a limit to the bytes
of a name and of a whole path.
-/

namespace BoundReport

/-- A file system that answers in the monad `m`. -/
structure Disk (m : Type → Type) where
  isFile : Text → m Bool
  isDirectory : Text → m Bool
  /-- The text of a file; none if there is no such file or its bytes are no UTF-8. -/
  read? : Text → m (Option Text)
  /-- Makes a directory and those it is in, as far as they are missing, and tells whether it is
  there afterwards. -/
  makeDirectory : Text → m Bool
  /-- Writes a file, new or not, and tells whether that was possible. -/
  write : Text → Text → m Bool

/-- Sees to it that there is a directory, and tells whether there is. No directory can be made by
a path that ends in a dot: it has to be there once those on the way to it have been made. -/
def Disk.provideDirectory {m : Type → Type} [Monad m] (disk : Disk m) (path : Text) : m Bool := do
  if FilePath.endsInDot path then
    let ready ← match FilePath.parent? path with
      | some parent => disk.makeDirectory parent
      | none => pure true
    if ready then disk.isDirectory path else return false
  else disk.makeDirectory path

/-- The names on the way from the root to a file or directory. -/
abbrev Place := List Text

/-- A file, or a directory with all that it holds. -/
inductive FileNode
  | file (bytes : ByteArray)
  | directory (entries : List (Text × FileNode))

namespace FileNode

/-- What stands at a place, as seen from a node. -/
def find? (node : FileNode) : Place → Option FileNode
  | [] => some node
  | name :: rest =>
    match node with
    | .file _ => none
    | .directory entries => (entries.lookup name).bind fun inner => inner.find? rest

/-- The node with something put at a place. There are directories on the way to it, unless a
file is in the way, which stays as it is. -/
def put (new : FileNode) (node : FileNode) : Place → FileNode
  | [] => new
  | name :: rest =>
    match node with
    | .file bytes => .file bytes
    | .directory entries =>
      let inner := (entries.lookup name).getD (.directory [])
      .directory ((name, put new inner rest) :: entries.filter fun entry => entry.1 ≠ name)

mutual

/-- The files in a node, with their places; the node itself stands at `place`. -/
def files (place : Place) : FileNode → List (Place × ByteArray)
  | .file bytes => [(place, bytes)]
  | .directory entries => entriesFiles place entries

/-- The files in the entries of a directory. -/
def entriesFiles (place : Place) : List (Text × FileNode) → List (Place × ByteArray)
  | [] => []
  | (name, node) :: rest => files (place ++ [name]) node ++ entriesFiles place rest

end

end FileNode

/-- A file system as a value. The root is a directory. -/
structure FileTree where
  entries : List (Text × FileNode)
  workingDirectory : Place

namespace FileTree

/-- What stands at a place. -/
def node? (tree : FileTree) (place : Place) : Option FileNode :=
  FileNode.find? (.directory tree.entries) place

/-- Whether a directory stands at a place. -/
def isDirectory (tree : FileTree) (place : Place) : Bool :=
  match tree.node? place with
  | some (.directory _) => true
  | _ => false

/-- The tree with something put at a place below the root. -/
def put (tree : FileTree) (place : Place) (node : FileNode) : FileTree :=
  match FileNode.put node (.directory tree.entries) place with
  | .directory entries => { tree with entries := entries }
  | .file _ => tree

/-- The files of the tree, with their places. -/
def files (tree : FileTree) : List (Place × ByteArray) :=
  FileNode.entriesFiles [] tree.entries

/-- The greatest number of bytes in a name. -/
def maxNameWidth : Nat := 255

/-- The greatest number of bytes in a path. -/
def maxPathWidth : Nat := 4095

/-- Whether something in a directory may have this name. -/
def isName (name : Text) : Bool := Text.width name ≤ maxNameWidth && !name.contains '\x00'

/-- The place that a step leads to. -/
def step? (tree : FileTree) (place : Place) : FilePath.Step → Option Place
  | .root => some []
  | .current => if tree.isDirectory place then some place else none
  | .parent => if tree.isDirectory place then some place.dropLast else none
  | .name name => if tree.isDirectory place && isName name then some (place ++ [name]) else none

/-- Whether a path can lead to a directory only. -/
def mustBeDirectory (path : Text) : Bool :=
  match (Text.splitOn '/' path).getLast? with
  | some segment => FilePath.isVoid segment
  | none => true

/-- The place that a path leads to. Nothing needs to stand there, unless the path can lead to a
directory only. -/
def resolve? (tree : FileTree) (path : Text) : Option Place := do
  if path = [] ∨ maxPathWidth < Text.width path then none
  let place ← (FilePath.steps path).foldlM tree.step? tree.workingDirectory
  if mustBeDirectory path && !tree.isDirectory place then none else some place

/-- The bytes of the file that a path leads to. -/
def bytes? (tree : FileTree) (path : Text) : Option ByteArray := do
  match tree.node? (← tree.resolve? path) with
  | some (.file bytes) => some bytes
  | _ => none

/-- The text of the file that a path leads to. -/
def text? (tree : FileTree) (path : Text) : Option Text := do
  let bytes ← tree.bytes? path
  (String.fromUTF8? bytes).map String.toList

/-- Takes a step, making the directory that it leads to if nothing stands there. -/
def makeStep? (state : FileTree × Place) (step : FilePath.Step) : Option (FileTree × Place) := do
  let (tree, place) := state
  let next ← tree.step? place step
  match tree.node? next with
  | some (.directory _) => some (tree, next)
  | some (.file _) => none
  | none => some (tree.put next (.directory []), next)

/-- The tree with the directory that a path leads to, if it can be made. -/
def makeDirectory? (tree : FileTree) (path : Text) : Option FileTree :=
  if maxPathWidth < Text.width path then none
  else ((FilePath.steps path).foldlM makeStep? (tree, tree.workingDirectory)).map (·.1)

/-- The tree with a text written to the file that a path leads to, if that is possible. -/
def write? (tree : FileTree) (path content : Text) : Option FileTree := do
  let place ← tree.resolve? path
  if tree.isDirectory place then none
  else some (tree.put place (.file (Text.toString content).toUTF8))

/-- A file tree as a disk. -/
def disk : Disk (StateM FileTree) where
  isFile path := do return ((← get).bytes? path).isSome
  isDirectory path := do
    let tree ← get
    return ((tree.resolve? path).map tree.isDirectory).getD false
  read? path := do return (← get).text? path
  makeDirectory path := do
    match (← get).makeDirectory? path with
    | some tree => set tree; return true
    | none => return false
  write path content := do
    match (← get).write? path content with
    | some tree => set tree; return true
    | none => return false

end FileTree

end BoundReport
