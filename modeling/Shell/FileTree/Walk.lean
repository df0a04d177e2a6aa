import Shell.FileTree
import Shell.Path

/-!
# File trees — following a path

A path is followed step by step from a directory.  A dot stays, a double dot goes up (the root is
above itself), a name goes down, and a symbolic link is replaced by its target, at most forty times.
A walk ends at a node or at a vacant name in a directory that exists (`Found`); every other outcome
is an error.  A walk that is to create a file (`creating`) refuses a path that asks for a directory.
A directory that was removed holds no names, whatever their length.

* `FileTree.locate` follows a path to a node; the path must not be too long (`FileTree.find`).
* `FileTree.canonical` gives the location at a path of any length, as seen from a directory that
  still exists.
* `FileTree.isExecutable` is the test by which a program is searched.
-/

namespace Shell

/-- Where a walk ends. -/
inductive Found where
  | node (location : Location)
  /-- No such name in a directory that exists. -/
  | vacant (directory : Location) (name : String)
  deriving DecidableEq, Repr

/-- The location of the node where a walk ended. -/
def Found.location : Found → Except SystemError Location
  | node location => .ok location
  | vacant _ _ => .error .noSuchFile

/-- Only a walk to a node gives a location. -/
theorem Found.bind_location_eq_ok_iff {walked : Except SystemError Found} {place : Location} :
    walked >>= location = .ok place ↔ walked = .ok (.node place) := by
  rcases walked with _ | ⟨_ | _⟩
  · exact ⟨nofun, nofun⟩
  · exact ⟨fun e => congrArg _ (congrArg _ (Except.ok.inj e)), fun e => by cases e; rfl⟩
  · exact ⟨nofun, nofun⟩

namespace FileTree

/-- The links that one walk may follow. -/
def linkLimit : Nat := 40

/-- The bytes that one name may have. -/
def nameLimit : Nat := 255

/-- The bytes that a path must stay below. -/
def pathLimit : Nat := 4096

/-- Follow steps from a directory; `follow` goes on where a link points. -/
def walkSteps (tree : FileTree) (creating : Bool)
    (follow : Location → List String → Except SystemError Found) (here : Location) :
    List String → Except SystemError Found
  | [] => .ok (.node here)
  | step :: rest =>
      if ((tree.get? here).map Node.isDirectory) ≠ some true then .error .notDirectory
      else if step = "" || step = "." then walkSteps tree creating follow here rest
      else if step = ".." then walkSteps tree creating follow here.tail rest
      else if creating && rest = [""] then .error .isDirectory
      else if tree.get? here = some .removedDirectory then .error .noSuchFile
      else if nameLimit < step.utf8ByteSize then .error .nameTooLong
      else match tree.get? (step :: here) with
        | none => if rest = [] then .ok (.vacant here step) else .error .noSuchFile
        | some (.link target) =>
            follow (if Path.isAbsolute target then [] else here) (Path.steps target ++ rest)
        | some _ => walkSteps tree creating follow (step :: here) rest

/-- Follow steps from a directory through so many links. -/
def walk (tree : FileTree) (creating : Bool) : Nat → Location → List String →
    Except SystemError Found
  | 0 => walkSteps tree creating fun _ _ => .error .tooManyLinks
  | links + 1 => walkSteps tree creating (walk tree creating links)

/-- Follow a path of any length from a working directory. -/
def follow (tree : FileTree) (creating : Bool) (cwd : Location) (path : String) :
    Except SystemError Found :=
  if path.toList.contains '\x00' then .error .nulInPath
  else if path = "" then .error .noSuchFile
  else tree.walk creating linkLimit (if Path.isAbsolute path then [] else cwd) (Path.steps path)

/-- Follow a path from a working directory, if it is short enough for the system. -/
def find (tree : FileTree) (creating : Bool) (cwd : Location) (path : String) :
    Except SystemError Found :=
  if path.toList.contains '\x00' then .error .nulInPath
  else if pathLimit ≤ path.utf8ByteSize then .error .nameTooLong
  else tree.follow creating cwd path

/-- The location of the node at a path. -/
def locate (tree : FileTree) (cwd : Location) (path : String) : Except SystemError Location :=
  tree.find false cwd path >>= Found.location

/-- Whether a directory is at a location and was not removed. -/
def isLiveDirectory (tree : FileTree) (location : Location) : Bool :=
  tree.get? location = some .directory

/-- The location of the node at a path, links and dots resolved one by one, so that the path may
have any length.  A relative path has none once the working directory was removed. -/
def canonical (tree : FileTree) (cwd : Location) (path : String) : Except SystemError Location :=
  if Path.isAbsolute path || tree.isLiveDirectory cwd then
    tree.follow false cwd path >>= Found.location
  else .error .noSuchFile

/-- Whether a path leads to something that can be run. -/
def isExecutable (tree : FileTree) (cwd : Location) (path : String) : Bool :=
  match tree.locate cwd path with
  | .ok location => ((tree.get? location).map Node.isExecutable).getD false
  | .error _ => false

end FileTree

end Shell
