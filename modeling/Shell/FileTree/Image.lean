import Shell.FileTree.Walk

/-!
# File trees — what a program runs

A path names a program when it leads to a tool, which runs as it is, or to a file that may be run
and whose first line names an interpreter after `#!`, which runs with the path as its argument
(`FileTree.image`).  An interpreter may again be such a file, but only five times over.
-/

namespace Shell

/-- A tool and the arguments it is run with, the name it is called by first. -/
structure Image where
  tool : Tool
  argv : List String
  deriving DecidableEq, Repr

namespace FileTree

/-- The files with an interpreter that one program may lead through. -/
def interpreterLimit : Nat := 5

/-- Whether a character parts the words of a first line. -/
def isGap (c : Char) : Bool :=
  c = ' ' || c = '\t'

/-- A text without the gaps at its ends. -/
def withoutGaps (text : List Char) : List Char :=
  ((text.dropWhile isGap).reverse.dropWhile isGap).reverse

/-- The interpreter that the first line of a file names, and the argument it names for it. -/
def interpreter? (content : Bytes) : Option (String × List String) :=
  match (content.splitLine.1.text?.getD "").toList with
  | '#' :: '!' :: line =>
      let line := withoutGaps (line.filter (· ≠ '\n'))
      let path := line.takeWhile (!isGap ·)
      let argument := withoutGaps (line.drop path.length)
      if path = [] then none
      else some (String.ofList path,
        if argument = [] then [] else [String.ofList argument])
  | _ => none

/-- What a program runs, through so many files with an interpreter. -/
def imageWithin (tree : FileTree) (cwd : Location) : Nat → String → List String →
    Except SystemError Image
  | 0, _, _ => .error .tooManyLinks
  | files + 1, path, argv =>
      match tree.locate cwd path with
      | .error e => .error e
      | .ok location =>
          match tree.get? location with
          | some (.tool tool) => .ok { tool, argv }
          | some (.file mode content) =>
              if !(Node.file mode content).grants .run then .error .permissionDenied
              else match interpreter? content with
                | none => .error .badProgramFormat
                | some (interpreter, arguments) =>
                    imageWithin tree cwd files interpreter
                      (interpreter :: arguments ++ path :: argv.tail)
          | _ => .error .permissionDenied

/-- What the program at a path runs when it is given a name and arguments. -/
def image (tree : FileTree) (cwd : Location) (path : String) (argv : List String) :
    Except SystemError Image :=
  tree.imageWithin cwd (interpreterLimit + 1) path argv

end FileTree

end Shell
