import PolicyGate.Source.Path

/-!
# File trees

The files and folders of a computer. A place is given by the steps that lead to it from the root. A tree lists its
items in no particular order; the working folder and the folders on the way to it are always there.
-/

namespace PolicyGate

/-- What stands at a place of a tree. -/
inductive FileItem where
  | folder
  | file (content : List UInt8)
deriving DecidableEq, Repr

/-- The items of a tree by their places, and the place of the working folder. -/
structure FileTree where
  items : List (List String × FileItem) := []
  home : List String := ["home"]
deriving Repr

namespace FileTree

/-- The item at a place. -/
def at? (tree : FileTree) (place : List String) : Option FileItem :=
  if place.isPrefixOf tree.home then some .folder else (tree.items.find? (·.1 == place)).map (·.2)

/-- The place one step further; only folders have places in them. Above the root is the root. -/
def step (tree : FileTree) (place : List String) (name : String) : Option (List String) :=
  match tree.at? place with
  | some .folder =>
    if name = ".." then some place.dropLast
    else if (tree.at? (place ++ [name])).isSome then some (place ++ [name])
    else none
  | _ => none

/-- The place that a path leads to, if there is anything. -/
def place? (tree : FileTree) (path : Path) : Option (List String) :=
  path.steps.foldlM tree.step (if path.root.isEmpty then tree.home else [])

/-- The names of the files in a folder, in no particular order. -/
def fileNames (tree : FileTree) (place : List String) : List String :=
  tree.items.filterMap fun (path, item) =>
    match item with
    | .folder => none
    | .file _ => if path.dropLast == place then path.getLast? else none

/-- The tree without an item and all that is in it. -/
def remove (tree : FileTree) (steps : List String) : FileTree :=
  { tree with items := tree.items.filter fun e => !(tree.home ++ steps).isPrefixOf e.1 }

/-- The tree with a folder, unless there is something already. -/
def addFolder (tree : FileTree) (place : List String) : FileTree :=
  if (tree.at? place).isSome then tree else { tree with items := tree.items ++ [(place, .folder)] }

/-- The tree with folders for all steps of a path. -/
def addFolders (tree : FileTree) (steps : List String) : FileTree :=
  (List.range (steps.length + 1)).foldl (fun t n => t.addFolder (tree.home ++ steps.take n)) tree

/-- The tree with a file, in folders that are added where they are missing. -/
def write (tree : FileTree) (steps : List String) (content : List UInt8) : FileTree :=
  let folders := (tree.remove steps).addFolders steps.dropLast
  { folders with items := folders.items ++ [(tree.home ++ steps, .file content)] }

end FileTree
end PolicyGate
