import Shell.Command
import Shell.Text.Quoted
import Shell.Token

/-!
# Tokens and commands in log records

How the tokens of a line and the command they make are shown to somebody who follows a session: each
part with its kind, texts in quoted form.
-/

namespace Shell

/-- Texts between brackets, separated by commas. -/
def bracketed (items : List String) : String :=
  "[" ++ ", ".intercalate items ++ "]"

/-- A token with its kind. -/
def Token.shown : Token → String
  | word text => "Word(" ++ Text.quoted text ++ ")"
  | operator spelling => "Redirect(" ++ Text.quoted spelling ++ ")"

/-- The name of a kind. -/
def RedirectKind.name : RedirectKind → String
  | output => "Output"
  | outputAppend => "OutputAppend"
  | error => "Error"
  | errorAppend => "ErrorAppend"
  | allOutput => "AllOutput"
  | allAppend => "AllAppend"
  | input => "Input"

/-- A word as a word. -/
def Word.shown (word : Word) : String :=
  "Word(" ++ Text.quoted word.text ++ ")"

/-- A redirect with its kind and its target. -/
def Redirect.shown (redirect : Redirect) : String :=
  "Redirect \x7b kind: " ++ redirect.kind.name ++ ", target: " ++ redirect.target.shown ++ " \x7d"

/-- A command with its words and its redirects. -/
def Command.shown (command : Command) : String :=
  "Command \x7b args: " ++ bracketed (command.words.map Word.shown) ++ ", redirects: "
    ++ bracketed (command.redirects.map Redirect.shown) ++ " \x7d"

end Shell
