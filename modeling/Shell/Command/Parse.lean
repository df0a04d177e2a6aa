import Shell.Command
import Shell.Text.Blank
import Shell.Token.Scan

/-!
# Commands — reading tokens

A command is a run of words and of redirects, a redirect being an operator with a word right after
it.  `Command.ofTokens` reads tokens from left to right and stops at the first redirect that is not
well formed; a run without any word that is not a target is no command.  An error carries its cause
(`ParseError.Cause`) and the number of tokens that had been looked at.

Tokens need not come from a line: a word without characters is passed over among the arguments and
is no target, and an operator may be spelled in no known way.
-/

namespace Shell

/-- Why a run of tokens is no command. -/
inductive ParseError.Cause where
  /-- The operator is none of the known ones. -/
  | unknownOperator (spelling : String)
  /-- Nothing that could be a target follows the operator. -/
  | missingTarget (spelling : String)
  /-- Another operator stands where the target should be. -/
  | operatorAsTarget (spelling : String)
  /-- No word names the command. -/
  | noCommand
  deriving DecidableEq, Repr

/-- The operator that an error is about. -/
def ParseError.Cause.operator? : ParseError.Cause → Option String
  | unknownOperator spelling | missingTarget spelling | operatorAsTarget spelling => some spelling
  | noCommand => none

/-- The report of an error in words. -/
def ParseError.Cause.message : ParseError.Cause → String
  | unknownOperator spelling => "unknown redirect operator: " ++ spelling
  | missingTarget spelling => "redirect operator " ++ spelling ++ " requires a target file"
  | operatorAsTarget spelling => "redirect target must be a word, got redirect " ++ spelling
  | noCommand => "command cannot be empty"

/-- A run of tokens that is no command. -/
structure ParseError where
  cause : ParseError.Cause
  /-- How many tokens had been looked at. -/
  position : Nat
  deriving DecidableEq, Repr

/-- The report of an error in words. -/
def ParseError.message (error : ParseError) : String :=
  error.cause.message

namespace Command

/-- The words and the redirects of a run of tokens that starts at a position. -/
def gather (position : Nat) : List Token → Except ParseError (List Word × List Redirect)
  | [] => .ok ([], [])
  | .word text :: rest =>
      match gather (position + 1) rest with
      | .error e => .error e
      | .ok (words, redirects) => .ok ((Word.ofText? text).toList ++ words, redirects)
  | .operator spelling :: rest =>
      match RedirectKind.ofSpelling? spelling, rest with
      | none, _ => .error ⟨.unknownOperator spelling, position + 1⟩
      | some _, [] => .error ⟨.missingTarget spelling, position + 1⟩
      | some _, .operator next :: _ => .error ⟨.operatorAsTarget next, position + 2⟩
      | some kind, .word text :: rest =>
          match Word.ofText? text with
          | none => .error ⟨.missingTarget spelling, position + 2⟩
          | some target =>
              match gather (position + 2) rest with
              | .error e => .error e
              | .ok (words, redirects) => .ok (words, { kind, target } :: redirects)

/-- The command that a run of tokens spells. -/
def ofTokens (tokens : List Token) : Except ParseError Command :=
  match gather 0 tokens with
  | .error e => .error e
  | .ok (words, redirects) =>
      match ofWords? words redirects with
      | none => .error ⟨.noCommand, tokens.length⟩
      | some command => .ok command

/-- The command that a line spells; blanks at its ends do not count. -/
def ofLine (line : String) : Except ParseError Command :=
  ofTokens (tokenize (Text.trim line))

end Command

end Shell
