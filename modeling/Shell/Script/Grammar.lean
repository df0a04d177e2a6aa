import Shell.FileTree.Open

/-!
# Scripts

The programs that the command interpreter runs: simple commands with assignments and redirections,
lists of commands, conditions and loops.  A word is made of pieces, literal or taken from a
parameter, quoted or not; only what is not quoted is split into fields.
-/

namespace Shell.Script

/-- A part of a word. -/
inductive Piece where
  | literal (text : String) (quoted : Bool)
  | parameter (name : String) (quoted : Bool)
  deriving DecidableEq, Repr

/-- A word as it is written. -/
abbrev Phrase := List Piece

/-- What a redirection does with a descriptor. -/
inductive Connection where
  | file (mode : OpenMode) (path : Phrase)
  | copy (descriptor : Phrase)
  deriving DecidableEq, Repr

/-- A redirection of one descriptor. -/
structure Reconnection where
  descriptor : Nat
  connection : Connection
  deriving DecidableEq, Repr

/-- A simple command and the line it stands on. -/
structure Simple where
  line : Nat
  assignments : List (String × Phrase) := []
  words : List Phrase := []
  reconnections : List Reconnection := []
  deriving DecidableEq, Repr

/-- A script. -/
inductive Statement where
  | nothing
  | simple (command : Simple)
  | sequence (first second : Statement)
  /-- The second runs if the first succeeds. -/
  | andThen (first second : Statement)
  /-- The second runs if the first fails. -/
  | orElse (first second : Statement)
  | negation (body : Statement)
  | condition (test yes no : Statement)
  /-- The body is repeated as long as the test succeeds, or as long as it fails. -/
  | repetition (whileSucceeds : Bool) (test body : Statement)
  /-- The body is repeated for each field of the words, or for each argument. -/
  | iteration (name : String) (words : Option (List Phrase)) (body : Statement)
  | group (body : Statement) (reconnections : List Reconnection)
  deriving Repr

end Shell.Script
