import Shell.FileTree.Walk

/-!
# File trees — making, removing and renaming entries

Changes to a tree that come from outside a session: directories, files and links at a location, the
removal of everything below one, and its renaming.  A directory that somebody works in is not
forgotten when it is removed: it moves to a name that no path can spell, with nothing in it, and its
double dot still leads to the directory that held it.  Who works in a directory that is renamed, or
below it, is in the same directory afterwards, and so at another location (`FileTree.afterMove`).

`FileTree.listing` is what is below a location, the content of every file with it, which each file
must grant.
-/

namespace Shell

namespace FileTree

/-- The tree with a directory at a location, and at all above it, where nothing is. -/
def makeDirectory (tree : FileTree) : Location → FileTree
  | [] => tree
  | name :: above =>
      let tree := tree.makeDirectory above
      match tree.get? (name :: above) with
      | none => tree.put (name :: above) .directory
      | some _ => tree

/-- The tree with a node at a location, in directories made as needed. -/
def plant (tree : FileTree) (location : Location) (node : Node) : FileTree :=
  (tree.makeDirectory location.tail).put location node

/-- Whether a location is another one or below it. -/
def isBelow (location top : Location) : Bool :=
  top.isSuffixOf location

/-- The name that stands for a removed directory; no step of a path has a slash in it. -/
def removedName (name : String) : String :=
  "/" ++ name

/-- The location of a working directory once the directory at `top` was removed. -/
def afterRemoval (top cwd : Location) : Location :=
  if isBelow cwd top then
    (cwd.take (cwd.length + 1 - top.length)).map removedName ++ top.tail
  else cwd

/-- The locations from a directory up to another one, that one left out. -/
def upTo (top : Location) : Location → List Location
  | [] => []
  | name :: above => if name :: above = top then [] else (name :: above) :: upTo top above

/-- The tree without what is at a location and below, for somebody who works in `cwd`. -/
def remove (tree : FileTree) (top cwd : Location) : FileTree :=
  let kept : FileTree :=
    { tree with entries := tree.entries.filter fun entry => !isBelow entry.1 top }
  if isBelow cwd top then
    (upTo top.tail (afterRemoval top cwd)).foldl (fun tree l => tree.put l .removedDirectory) kept
  else kept

/-- The location of what was at another one, once `source` is renamed to `target`. -/
def afterMove (source target location : Location) : Location :=
  if isBelow location source then location.take (location.length - source.length) ++ target
  else location

/-- Whether `source` can be renamed to `target`: something is there, and the new name is free, in a
directory that is neither `source` nor below it. -/
def canMove (tree : FileTree) (source target : Location) : Bool :=
  source ≠ [] && (tree.get? source).isSome && tree.isLiveDirectory target.tail
    && !isBelow target source && tree.entries.all fun entry => !isBelow entry.1 target

/-- The tree after `source` was renamed to `target`, with all that is below it. -/
def move (tree : FileTree) (source target : Location) : FileTree :=
  { tree with
    entries := tree.entries.map fun (location, node) => (afterMove source target location, node) }

/-- What is listed below a location, each entry with its path from there. -/
def below (tree : FileTree) (top : Location) : List (String × Node) :=
  tree.entries.filterMap fun (location, node) =>
    if isBelow location top && location ≠ top && node ≠ .removedDirectory then
      let names := (location.take (location.length - top.length)).reverse
      some ("/".intercalate names, node)
    else none

/-- What is listed below a location, if every file there may be read. -/
def listing (tree : FileTree) (top : Location) : Except SystemError (List (String × Node)) :=
  let entries := tree.below top
  if entries.all fun entry => entry.2.grants .read then .ok entries
  else .error .permissionDenied

end FileTree

end Shell
