import Shell.RedirectKind
import Shell.Token

/-!
# Tokens — scanning a line

A line is scanned from left to right, one character at a time.  The scanner is in one of six modes
(`Mode`): plain text, after a backslash in plain text, inside single quotes, inside double quotes,
after a backslash inside double quotes, and inside a redirect operator.  It keeps the characters of
the token it is in (`pending`) and the tokens it has finished.

* Only the plain space parts words; a word of no characters is no token.
* `<` is a token by itself.  `>` takes up a single pending `1`, `2` or `&` and grows as long as it
  spells an operator; whatever stops it is read as plain text.
* Between single quotes every character stands for itself.  Between double quotes a backslash
  escapes `"`, `\`, the backquote, `$` and a newline, and stands for itself before anything else.
* Where the line ends, an open quote closes and a lone backslash is dropped.

`tokenize` is total: every line has tokens.
-/

namespace Shell

/-- Where in a line the scanner is. -/
inductive Mode where
  | plain
  | escaped
  | singleQuoted
  | doubleQuoted
  | doubleEscaped
  | operator
  deriving DecidableEq, Repr, Inhabited

/-- The scanner between two characters. -/
structure Scan where
  mode : Mode := .plain
  /-- The characters of the token being read. -/
  pending : String := ""
  /-- The tokens already finished, in order. -/
  tokens : Array Token := #[]
  deriving DecidableEq, Repr, Inhabited

namespace Scan

/-- The characters that a backslash escapes between double quotes. -/
def isDoubleEscapable (c : Char) : Bool :=
  c = '"' || c = '\\' || c = '\x60' || c = '$' || c = '\n'

/-- Whether a `>` after these characters makes one operator with them. -/
def joinsOperator (pending : String) : Bool :=
  match pending.toList with
  | [] => true
  | [c] => RedirectKind.isDescriptorMark c
  | _ => false

/-- The same place in the same mode, one character into the token. -/
def push (s : Scan) (c : Char) : Scan :=
  { s with pending := s.pending.push c }

/-- Change over to another mode. -/
def enter (s : Scan) (mode : Mode) : Scan :=
  { s with mode }

/-- Finish the pending token, made by `make`, unless it has no characters. -/
def finish (s : Scan) (make : String → Token) : Scan :=
  if s.pending = "" then s else { s with pending := "", tokens := s.tokens.push (make s.pending) }

/-- Read one character of plain text. -/
def plain (s : Scan) (c : Char) : Scan :=
  match c with
  | '\'' => s.enter .singleQuoted
  | '"' => s.enter .doubleQuoted
  | '\\' => s.enter .escaped
  | ' ' => (s.finish .word).enter .plain
  | '<' => (((s.finish .word).push '<').finish .operator).enter .plain
  | '>' => ((if joinsOperator s.pending then s else s.finish .word).push '>').enter .operator
  | c => (s.push c).enter .plain

/-- Read one character. -/
def step (s : Scan) (c : Char) : Scan :=
  match s.mode with
  | .plain => s.plain c
  | .escaped => (s.push c).enter .plain
  | .singleQuoted => if c = '\'' then s.enter .plain else s.push c
  | .doubleQuoted =>
      if c = '"' then s.enter .plain
      else if c = '\\' then s.enter .doubleEscaped
      else s.push c
  | .doubleEscaped =>
      ((if isDoubleEscapable c then s else s.push '\\').push c).enter .doubleQuoted
  | .operator =>
      if RedirectKind.isSpelling (s.pending.push c) then s.push c
      else (s.finish .operator).plain c

/-- Read a run of characters. -/
def run (s : Scan) (text : List Char) : Scan :=
  text.foldl step s

/-- The tokens once the line has ended. -/
def close (s : Scan) : List Token :=
  (match s.mode with
    | .operator => s.finish .operator
    | _ => s.finish .word).tokens.toList

/-- Whether a backslash is waiting for the character it escapes. -/
def escapePending (s : Scan) : Bool :=
  s.mode = .escaped || s.mode = .doubleEscaped

@[simp]
theorem run_nil (s : Scan) : s.run [] = s := rfl

@[simp]
theorem run_cons (s : Scan) (c : Char) (text : List Char) :
    s.run (c :: text) = (s.step c).run text := rfl

theorem run_append (s : Scan) (a b : List Char) : s.run (a ++ b) = (s.run a).run b := by
  simp [run]

end Scan

/-- The words and operators of a line. -/
def tokenize (line : String) : List Token :=
  (Scan.run {} line.toList).close

end Shell
