import Shell.FileTree.Walk

/-!
# File trees — open files

A file is opened for reading, for writing from its start after it was emptied, or for writing at its
end (`OpenMode`); the last two make the file where the name is vacant, if the directory takes new
names (`FileTree.takesNames`).  What is made grants reading and writing but for what the mask of the
tree takes away (`FileTree.newFileMode`).  A file that is there must grant the access
(`OpenMode.access`); once it is open its mode bits are not asked again.

An open file remembers where it is and how far it has been read or written (`OpenFile`), and no
more: two opens of one file share its content and nothing else.

Reading a directory is refused (`FileTree.read`), and so is writing to a device that takes nothing
(`FileTree.refusal?`, `FileTree.write`).
-/

namespace Shell

/-- What a file is opened for. -/
inductive OpenMode where
  | read
  | truncate
  | append
  deriving DecidableEq, Repr

/-- What a file must grant to be opened. -/
def OpenMode.access : OpenMode → Access
  | read => .read
  | truncate | append => .write

/-- A file in use. -/
structure OpenFile where
  location : Location
  mode : OpenMode
  /-- How many bytes from the start the next read or write is. -/
  offset : Nat := 0
  deriving DecidableEq, Repr

namespace FileTree

/-- The mode bits that an open asks for when it makes a file. -/
def wantedMode : Nat := 0o666

/-- The mode bits of a file that an open makes: those it asks for, without the masked ones. -/
def newFileMode (tree : FileTree) : Nat :=
  wantedMode ^^^ (wantedMode &&& tree.mask)

/-- Whether a file that an open makes can be opened for writing once more. -/
def makesWritable (tree : FileTree) : Bool :=
  (Node.file tree.newFileMode []).grants .write

/-- Why writes to what is at a location are refused, if they are. -/
def refusal? (tree : FileTree) (location : Location) : Option SystemError :=
  (tree.get? location).bind Node.refusal?

theorem refusal?_congr {tree tree' : FileTree} {location : Location}
    (h : tree'.get? location = tree.get? location) :
    tree'.refusal? location = tree.refusal? location := by
  rw [refusal?, refusal?, h]

/-- Whether what is at a location grants an access. -/
def grants (tree : FileTree) (access : Access) (location : Location) : Bool :=
  (tree.get? location).any (Node.grants access)

/-- Whether new names can be made in a directory.  The root and the directories of the special files
and the tools are not the owner's, and take none. -/
def takesNames (tree : FileTree) (directory : Location) : Bool :=
  directory ≠ [] && tree.entries.all fun (location, node) =>
    location.tail ≠ directory || !node.isProvided

/-- The file as an open for writing leaves it. -/
def prepare (tree : FileTree) (mode : OpenMode) (location : Location) :
    Except SystemError FileTree :=
  match mode, tree.get? location with
  | _, some .directory | _, some .removedDirectory => .error .isDirectory
  | .truncate, some (.file bits _) => .ok (tree.put location (.file bits []))
  | _, _ => .ok tree

/-- Open the file at a path. -/
def openFile (tree : FileTree) (cwd : Location) (mode : OpenMode) (path : String) :
    Except SystemError (OpenFile × FileTree) :=
  match mode with
  | .read =>
      match tree.locate cwd path with
      | .error e => .error e
      | .ok location =>
          if tree.grants mode.access location then .ok ({ location, mode }, tree)
          else .error .permissionDenied
  | _ =>
      match tree.find true cwd path with
      | .error e => .error e
      | .ok (.node location) =>
          if tree.grants mode.access location then
            match tree.prepare mode location with
            | .error e => .error e
            | .ok tree => .ok ({ location, mode }, tree)
          else .error .permissionDenied
      | .ok (.vacant directory name) =>
          if tree.takesNames directory then
            .ok ({ location := name :: directory, mode },
              tree.put (name :: directory) (.file tree.newFileMode []))
          else .error .permissionDenied

/-- The content with some bytes written over it from an offset; a gap is filled with zeros. -/
def overwrite (content : Bytes) (offset : Nat) (bytes : Bytes) : Bytes :=
  content.take offset ++ List.replicate (offset - content.length) 0 ++ bytes
    ++ content.drop (offset + bytes.length)

/-- Write bytes to an open file, all of them. -/
def write (tree : FileTree) (file : OpenFile) (bytes : Bytes) :
    Except SystemError (OpenFile × FileTree) :=
  if bytes = [] then .ok (file, tree)
  else if file.mode = .read then .error .badDescriptor
  else match tree.get? file.location with
    | some (.file bits content) =>
        match file.mode with
        | .append => .ok (file, tree.put file.location (.file bits (content ++ bytes)))
        | _ =>
            .ok ({ file with offset := file.offset + bytes.length },
              tree.put file.location (.file bits (overwrite content file.offset bytes)))
    | _ =>
        match tree.refusal? file.location with
        | some e => .error e
        | none => .ok (file, tree)

/-- Read at most so many bytes from an open file. -/
def read (tree : FileTree) (file : OpenFile) (count : Nat) :
    Except SystemError (Bytes × OpenFile) :=
  if file.mode ≠ .read then .error .badDescriptor
  else match tree.get? file.location with
    | some (.file _ content) =>
        let taken := (content.drop file.offset).take count
        .ok (taken, { file with offset := file.offset + taken.length })
    | some .directory | some .removedDirectory => .error .isDirectory
    | some (.device .full) => .ok (List.replicate count 0, file)
    | _ => .ok ([], file)

/-- Read what is left of an open file. -/
def readRest (tree : FileTree) (file : OpenFile) : Except SystemError (Bytes × OpenFile) :=
  match tree.get? file.location with
  | some (.file _ content) => tree.read file content.length
  | _ => tree.read file 1

end FileTree

end Shell
