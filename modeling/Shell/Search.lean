import Shell.FileTree.Walk

/-!
# Finding a program

The program that a command name stands for.  An absolute path and a path of several parts stand for
themselves; a path of one part is looked up in the directories of a search list, a text with colons
between them, and the first that holds something to run wins (`Search.inList`).  An empty entry of
the list is the working directory.  What is found is told apart by how (`Program`), because the path
of a program that was looked up is a new one.
-/

namespace Shell

/-- A path to a program. -/
inductive Program where
  /-- The path that was asked for. -/
  | given (path : String)
  /-- A path that was found in a search list. -/
  | searched (path : String)
  deriving DecidableEq, Repr

/-- The path, however it was found. -/
def Program.path : Program → String
  | given path => path
  | searched path => path

namespace Search

/-- The directories of a search list, in order. -/
def entries (list : String) : List String :=
  (Text.fields ':' list.toList).map String.ofList

/-- The first path below an entry of a search list that can be run. -/
def inList (tree : FileTree) (cwd : Location) (list name : String) : Option String :=
  ((entries list).map (Path.join · name)).find? fun path => tree.isExecutable cwd path

/-- The path itself, if it can be run. -/
def asGiven (tree : FileTree) (cwd : Location) (path : String) : Option Program :=
  if tree.isExecutable cwd path then some (.given path) else none

/-- The program that a path stands for. -/
def program? (tree : FileTree) (cwd : Location) (list path : String) : Option Program :=
  if Path.isAbsolute path then asGiven tree cwd path
  else match Path.components path with
    | [] => none
    | [part] => (inList tree cwd list part.text).map .searched
    | _ => asGiven tree cwd path

end Search

end Shell
