import Shell.Bytes
import Shell.SystemError

/-!
# File trees

The files of a machine.  A file is known by its location, the names on the way to it from the root,
innermost first, so that the root is the empty list and the tail of a location is the directory
that holds it.  A tree lists what is at each location (`Node`); the root is always a directory.  All
files belong to one owner, who may do with a file what its mode bits grant him (`Node.grants`).
The mask that his processes make files under is part of the tree: they all inherit it, and none
changes it.

`FileTree.get?_put_self` and `FileTree.get?_put_of_ne` say what a change of one location does to
the view by location, and `FileTree.put_get?` that putting back what is there changes nothing.
-/

namespace Shell

/-- The names on the way to a file, innermost first. -/
abbrev Location := List String

/-- The absolute path of a location. -/
def Location.path (location : Location) : String :=
  match location with
  | [] => "/"
  | _ => String.join (location.reverse.map ("/" ++ ·))

/-- A special file. -/
inductive Device where
  /-- Takes everything and gives nothing. -/
  | null
  /-- Takes nothing and gives zeros without end. -/
  | full
  /-- A terminal whose line was cut: takes nothing and gives nothing. -/
  | hungUp
  deriving DecidableEq, Repr

/-- Why a special file takes no bytes, if it takes none. -/
def Device.refusal? : Device → Option SystemError
  | null => none
  | full => some .noSpace
  | hungUp => some .inputOutput

/-- A program that is not a script. -/
inductive Tool where
  /-- The command interpreter that runs scripts. -/
  | interpreter
  /-- Copies files to its output. -/
  | concatenate
  deriving DecidableEq, Repr

/-- What is at a location. -/
inductive Node where
  | file (mode : Nat) (content : Bytes)
  | directory
  /-- A directory that was removed while it was somebody's working directory. -/
  | removedDirectory
  | link (target : String)
  | device (device : Device)
  | tool (tool : Tool)
  deriving DecidableEq, Repr

/-- Whether names can be looked up below a node. -/
def Node.isDirectory : Node → Bool
  | directory | removedDirectory => true
  | _ => false

/-- Whether a node looks like a program: a tool, or a file that somebody may run. -/
def Node.isExecutable : Node → Bool
  | file mode _ => mode &&& 0o111 ≠ 0
  | tool _ => true
  | _ => false

/-- Whether a node comes with the machine. -/
def Node.isProvided : Node → Bool
  | device _ | tool _ => true
  | _ => false

/-- What a file can be opened or started for. -/
inductive Access where
  | read
  | write
  | run
  deriving DecidableEq, Repr

/-- The mode bit by which a file grants an access to its owner. -/
def Access.bit : Access → Nat
  | read => 0o400
  | write => 0o200
  | run => 0o100

/-- Whether a node grants an access to the owner of the files; the tools are not his. -/
def Node.grants (access : Access) : Node → Bool
  | file mode _ => mode &&& access.bit ≠ 0
  | tool _ => access ≠ .write
  | directory | removedDirectory | link _ | device _ => true

/-- Why writes to a node are refused, if they are. -/
def Node.refusal? : Node → Option SystemError
  | device d => d.refusal?
  | _ => none

/-- What is at each location other than the root, and the mask that files are made under. -/
structure FileTree where
  entries : List (Location × Node) := []
  /-- The mode bits that a new file goes without. -/
  mask : Nat := 0o022
  deriving DecidableEq, Repr

namespace FileTree

/-- The first node listed for a location. -/
def lookup (location : Location) : List (Location × Node) → Option Node
  | [] => none
  | (l, node) :: rest => if l = location then some node else lookup location rest

/-- The list with one location changed, or added at the end. -/
def update (location : Location) (node : Node) :
    List (Location × Node) → List (Location × Node)
  | [] => [(location, node)]
  | (l, old) :: rest =>
      if l = location then (l, node) :: rest else (l, old) :: update location node rest

/-- What is at a location. -/
def get? (tree : FileTree) (location : Location) : Option Node :=
  match location with
  | [] => some .directory
  | _ => lookup location tree.entries

/-- The tree with a node at a location. -/
def put (tree : FileTree) (location : Location) (node : Node) : FileTree :=
  { tree with entries := update location node tree.entries }

@[simp] theorem mask_put (tree : FileTree) (location : Location) (node : Node) :
    (tree.put location node).mask = tree.mask := rfl

theorem lookup_update_self (location : Location) (node : Node) (entries : List (Location × Node)) :
    lookup location (update location node entries) = some node := by
  induction entries with
  | nil => simp [update, lookup]
  | cons entry rest ih =>
      by_cases h : entry.1 = location
      · simp [update, lookup, h]
      · simp [update, lookup, h, ih]

theorem lookup_update_of_ne {location other : Location} (h : other ≠ location) (node : Node)
    (entries : List (Location × Node)) :
    lookup other (update location node entries) = lookup other entries := by
  induction entries with
  | nil => simp [update, lookup, h.symm]
  | cons entry rest ih =>
      by_cases e : entry.1 = location
      · simp [update, lookup, e, h.symm]
      · by_cases e' : entry.1 = other
        · subst e'
          simp [update, lookup, h]
        · simp [update, lookup, e, e', ih]

theorem update_lookup {location : Location} {node : Node} {entries : List (Location × Node)}
    (h : lookup location entries = some node) : update location node entries = entries := by
  induction entries with
  | nil => simp [lookup] at h
  | cons entry rest ih =>
      by_cases e : entry.1 = location
      · simp only [lookup, e, if_true, Option.some.injEq] at h
        simp [update, ← h, ← e]
      · simp only [lookup, e, if_false] at h
        simp [update, e, ih h]

theorem get?_put_self (tree : FileTree) {location : Location} (h : location ≠ []) (node : Node) :
    (tree.put location node).get? location = some node := by
  cases location with
  | nil => exact absurd rfl h
  | cons name above => exact lookup_update_self _ _ _

theorem get?_put_of_ne (tree : FileTree) {location other : Location} (h : other ≠ location)
    (node : Node) : (tree.put location node).get? other = tree.get? other := by
  cases other with
  | nil => rfl
  | cons name above => exact lookup_update_of_ne h _ _

/-- Putting back what is at a location changes nothing. -/
theorem put_get? {tree : FileTree} {location : Location} {node : Node} (h : location ≠ [])
    (e : tree.get? location = some node) : tree.put location node = tree := by
  cases location with
  | nil => exact absurd rfl h
  | cons name above => exact congrArg (FileTree.mk · tree.mask) (update_lookup e)

end FileTree

end Shell
