import RoguePilot.World.FileFault
import RoguePilot.World.Path

/-!
# File trees

A file tree is a file system held in memory. Paths are resolved name by name from the root or from a
directory, and everything on the way must be a directory. The operations fail as those of a real file
system do.
-/

namespace RoguePilot.World

/-- What a path can lead to. -/
inductive Node where
  /-- A file with its content. -/
  | file (content : List UInt8)
  /-- A directory. -/
  | directory
deriving DecidableEq, Repr

/-- A place in a file tree: the names from the root on. -/
abbrev Place : Type := List String

/-- A file system held in memory. -/
structure FileTree where
  /-- What is at each place; the root is always a directory. -/
  nodes : List (Place × Node)
deriving Repr

namespace FileTree

/-- A tree without files. -/
def empty : FileTree := ⟨[]⟩

/-- What is at a place. -/
def node? (tree : FileTree) (place : Place) : Option Node :=
  if place.isEmpty then some .directory else tree.nodes.lookup place

/-- The tree with something new at a place. -/
def put (tree : FileTree) (place : Place) (node : Node) : FileTree :=
  ⟨(place, node) :: tree.nodes.filter (·.1 ≠ place)⟩

/-- The tree with nothing at a place. -/
def erase (tree : FileTree) (place : Place) : FileTree :=
  ⟨tree.nodes.filter (·.1 ≠ place)⟩

/-- The place to which names lead from another one, where each but the last is that of a directory. -/
def walk (tree : FileTree) : Place → List String → Except FileFault Place
  | place, [] => .ok place
  | place, name :: names =>
    match tree.node? place with
    | none => .error .notFound
    | some (.file _) => .error .notADirectory
    | some .directory =>
      if name = "." then walk tree place names
      else if name = ".." then walk tree place.dropLast names
      else walk tree (place ++ [name]) names

/-- The place to which a path leads from a directory. What is there may be missing. -/
def resolve (tree : FileTree) (current : Place) (path : String) : Except FileFault Place :=
  if path.isEmpty then .error .notFound
  else if path.contains (Char.ofNat 0) then .error .badName
  else tree.walk (if Path.isAbsolute path then [] else current) (Path.steps path)

/-- What a path leads to. -/
def find (tree : FileTree) (current : Place) (path : String) : Except FileFault Node := do
  let place ← tree.resolve current path
  match tree.node? place with
  | some node => return node
  | none => .error .notFound

/-- Something has this path. -/
def pathExists (tree : FileTree) (current : Place) (path : String) : Bool :=
  (tree.find current path).isOk

/-- The content of a file. -/
def readFile (tree : FileTree) (current : Place) (path : String) :
    Except FileFault (List UInt8) := do
  match ← tree.find current path with
  | .file content => return content
  | .directory => .error .isADirectory

/-- The tree after a file was given content. -/
def writeFile (tree : FileTree) (current : Place) (path : String) (content : List UInt8) :
    Except FileFault FileTree := do
  let place ← tree.resolve current path
  match tree.node? place with
  | some .directory => .error .isADirectory
  | _ => return tree.put place (.file content)

/-- The tree after a file was made, unless it was there. -/
def touch (tree : FileTree) (current : Place) (path : String) : Except FileFault FileTree := do
  let place ← tree.resolve current path
  match tree.node? place with
  | some .directory => .error .isADirectory
  | some (.file _) => return tree
  | none => return tree.put place (.file [])

/-- The tree after a file was removed. -/
def removeFile (tree : FileTree) (current : Place) (path : String) :
    Except FileFault FileTree := do
  let place ← tree.resolve current path
  match tree.node? place with
  | none => .error .notFound
  | some .directory => .error .isADirectory
  | some (.file _) => return tree.erase place

/-- The tree after each missing directory on a way was made, from a directory that is there. -/
def makeWay (tree : FileTree) : Place → List String → Except FileFault FileTree
  | _, [] => .ok tree
  | place, name :: names =>
    let next :=
      if name = "." then place else if name = ".." then place.dropLast else place ++ [name]
    match tree.node? next with
    | some (.file _) => .error (if names.isEmpty then .alreadyThere else .notADirectory)
    | some .directory => makeWay tree next names
    | none => makeWay (tree.put next .directory) next names

/-- The tree after a directory was made with all directories on its way. -/
def makeDirectories (tree : FileTree) (current : Place) (path : String) :
    Except FileFault FileTree :=
  if path.isEmpty then .ok tree
  else if path.contains (Char.ofNat 0) then .error .badName
  else tree.makeWay (if Path.isAbsolute path then [] else current) (Path.steps path)

/-- The tree with a directory at a place and with all directories above it. -/
def withDirectory (tree : FileTree) (place : Place) : FileTree :=
  ((List.range (place.length + 1)).map place.take).foldl (fun made above =>
    if (made.node? above).isSome then made else made.put above .directory) tree

/-- The tree with a file at a place and with all directories above it. -/
def withFile (tree : FileTree) (place : Place) (content : List UInt8) : FileTree :=
  (tree.withDirectory place.dropLast).put place (.file content)

end FileTree

end RoguePilot.World
