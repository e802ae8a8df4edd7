import DatasetSync.Disk

/-!
# File trees

A file system in memory: directories in directories, and the directory where relative paths start.
A path is followed name by name; every name but the last must lead to a directory.  Names and whole
paths have a greatest length in bytes.
-/

namespace DatasetSync

/-- What lies at a place: a directory with what is in it, or a file. -/
inductive FileNode where
  | directory (entries : List (String × FileNode))
  | file (content : List UInt8)
  deriving Repr, Inhabited

abbrev Directory := List (String × FileNode)

def Directory.put (directory : Directory) (name : String) (node : FileNode) : Directory :=
  if (directory.lookup name).isSome then
    directory.map fun (other, old) => if other = name then (name, node) else (other, old)
  else
    directory ++ [(name, node)]

structure FileTree where
  root : Directory
  /-- The names that lead to where relative paths start. -/
  home : List String
  deriving Repr, Inhabited

/-- A place in a file tree. -/
structure FilePlace where
  /-- The directories on the way, each with the name that was taken in it, the last one first. -/
  way : List (String × Directory)
  /-- What lies there, if anything. -/
  node : Option FileNode
  deriving Repr, Inhabited

namespace FilePlace

def maxName : Nat := 255

/-- The place one directory up; the root lies in itself. -/
def up (place : FilePlace) : FilePlace :=
  match place.way with
  | [] => place
  | (_, directory) :: way => ⟨way, some (.directory directory)⟩

def step (place : FilePlace) (name : String) : Except DiskError FilePlace :=
  match place.node with
  | none => .error .noSuchFile
  | some (.file _) => .error .notDirectory
  | some (.directory directory) =>
      if name = "." then .ok place
      else if name = ".." then .ok place.up
      else if maxName < name.utf8ByteSize then .error .nameTooLong
      else .ok ⟨(name, directory) :: place.way, directory.lookup name⟩

/-- The root directory after something was put at the end of a way. -/
def rebuild (node : FileNode) : List (String × Directory) → Directory
  | [] =>
      match node with
      | .directory entries => entries
      | .file _ => []
  | (name, directory) :: way => rebuild (.directory (directory.put name node)) way

end FilePlace

namespace FileTree

/-- A directory with nothing in it but a chain of directories with these names. -/
def chain : List String → Directory
  | [] => []
  | name :: names => [(name, .directory (chain names))]

/-- An empty directory where the names lead, and the directories it lies in. -/
def empty (home : List String) : FileTree where
  root := chain home
  home

def top (tree : FileTree) : FilePlace :=
  ⟨[], some (.directory tree.root)⟩

def maxPath : Nat := 4095

/-- Follow names from where a path starts, if the path can be one at all. -/
def follow (tree : FileTree) (path : String) (names : List String) :
    Except DiskError FilePlace :=
  if Path.holdsTerminator path then .error .terminatorInName
  else if path = "" then .error .noSuchFile
  else if maxPath < path.utf8ByteSize then .error .nameTooLong
  else ((if Path.isAbsolute path then [] else tree.home) ++ names).foldlM FilePlace.step tree.top

/-- The place of a path; nothing needs to lie there. -/
def locate (tree : FileTree) (path : String) : Except DiskError FilePlace :=
  tree.follow path (Path.names path)

/-- The place of a path, which only a directory can have with a slash at the end. -/
def find (tree : FileTree) (path : String) : Except DiskError FilePlace := do
  let place ← tree.locate path
  match place.node with
  | some (.file _) => if Path.endsInSlash path then throw .notDirectory else return place
  | _ => return place

def put (tree : FileTree) (place : FilePlace) (node : FileNode) : FileTree :=
  { tree with root := FilePlace.rebuild node place.way }

def read (tree : FileTree) (path : String) : Except DiskError (List UInt8) := do
  match (← tree.find path).node with
  | some (.file content) => return content
  | some (.directory _) => throw .isDirectory
  | none => throw .noSuchFile

def readText (tree : FileTree) (path : String) : Except DiskError String := do
  match String.fromUTF8? ⟨(← tree.read path).toArray⟩ with
  | some text => return text
  | none => throw .notText

/--
Replace the content of a file, or make one.  A slash at the end says that a directory is meant: then
the way there must exist, but the last name is not looked at.
-/
def write (tree : FileTree) (path : String) (content : List UInt8) :
    Except DiskError FileTree := do
  if Path.endsInSlash path then
    let _ ← tree.follow path ((Path.names path).dropLast ++ ["."])
    throw .isDirectory
  let place ← tree.find path
  match place.node with
  | some (.directory _) => throw .isDirectory
  | _ => return tree.put place (.file content)

def append (tree : FileTree) (path : String) (content : List UInt8) :
    Except DiskError FileTree :=
  match tree.read path with
  | .ok before => tree.write path (before ++ content)
  | .error _ => tree.write path content

def makeDirectory (tree : FileTree) (path : String) : Except DiskError FileTree := do
  let place ← tree.locate path
  if place.node.isSome then throw .alreadyThere
  else return tree.put place (.directory [])

def isThere (tree : FileTree) (path : String) : Bool :=
  match tree.find path with
  | .ok place => place.node.isSome
  | .error _ => false

def directory? (tree : FileTree) (path : String) : Option Directory :=
  match tree.find path with
  | .ok ⟨_, some (.directory directory)⟩ => some directory
  | _ => none

/-! ## Listing -/

mutual

/-- The path of something and of all it holds; a directory has a slash at the end. -/
def nodePaths (path : String) : FileNode → List String
  | .file _ => [path]
  | .directory entries => (path ++ "/") :: entryPaths (path ++ "/") entries

def entryPaths (above : String) : List (String × FileNode) → List String
  | [] => []
  | (name, node) :: rest => nodePaths (above ++ name) node ++ entryPaths above rest

end

/-- The paths of all that lies below where relative paths start, in order. -/
def listing (tree : FileTree) : List String :=
  (entryPaths "" ((tree.directory? ".").getD [])).mergeSort (· ≤ ·)

/-- The names in the directory at a path, in order; none if there is no directory. -/
def children (tree : FileTree) (path : String) : List String :=
  (((tree.directory? path).getD []).map Prod.fst).mergeSort (· ≤ ·)

/-! ## As a disk -/

def changed (tree : FileTree) (change : Except DiskError FileTree) :
    Except DiskError Unit × FileTree :=
  match change with
  | .ok tree => (.ok (), tree)
  | .error error => (.error error, tree)

instance : Disk (StateM FileTree) where
  read path tree := (tree.readText path, tree)
  write path text tree := tree.changed (tree.write path text.toUTF8.toList)
  append path text tree := tree.changed (tree.append path text.toUTF8.toList)
  makeDirectory path tree := tree.changed (tree.makeDirectory path)
  isThere path tree := (tree.isThere path, tree)
  isDirectory path tree := ((tree.directory? path).isSome, tree)

end FileTree

end DatasetSync
