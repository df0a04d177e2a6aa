import Shell.RedirectKind

/-!
# Commands

A command is what a line asks for: a name, arguments, and redirects, each a non-empty word.  The
name is kept apart from the arguments, so that no command is without one; `Command.argv` puts the
two together again.
-/

namespace Shell

/-- A text of at least one character. -/
structure Word where
  text : String
  nonempty : text ≠ ""
  deriving DecidableEq, Repr

/-- The text as a word, unless it is empty. -/
def Word.ofText? (text : String) : Option Word :=
  if h : text = "" then none else some ⟨text, h⟩

/-- A stream of a command connected to a file. -/
structure Redirect where
  kind : RedirectKind
  target : Word
  deriving DecidableEq, Repr

/-- One command with its redirects, both in the order of the line. -/
structure Command where
  name : Word
  arguments : List Word
  redirects : List Redirect
  deriving DecidableEq, Repr

namespace Command

/-- The command whose first word is the name, unless there is no word at all. -/
def ofWords? (words : List Word) (redirects : List Redirect) : Option Command :=
  match words with
  | [] => none
  | name :: arguments => some { name, arguments, redirects }

/-- The name and the arguments. -/
def words (command : Command) : List Word :=
  command.name :: command.arguments

/-- The texts of the name and the arguments. -/
def argv (command : Command) : List String :=
  command.words.map Word.text

@[simp]
theorem ofWords?_words (command : Command) :
    ofWords? command.words command.redirects = some command := rfl

end Command

@[simp]
theorem Word.ofText?_empty : Word.ofText? "" = none := by
  simp [Word.ofText?]

@[simp]
theorem Word.ofText?_text (word : Word) : Word.ofText? word.text = some word := by
  simp [Word.ofText?, word.nonempty]

end Shell
