import Shell.Script.Lexeme

/-!
# Scripts — reading

The statement that the lexemes of a script spell (`Statement.ofText?`), or nothing where they spell
none.  Statements are lists of conditional lists of commands; a word is a keyword only where a
command could start and only without quotes.
-/

namespace Shell.Script

namespace Parse

/-- A reader of lexemes: what was read and the lexemes after it. -/
abbrev Reading (α : Type) := StateT (List Lexeme) Option α

/-- The text of a phrase that is one bare literal. -/
def bare? : Phrase → Option String
  | [.literal text false] => some text
  | _ => none

/-- The words that mean something of their own where a command could start. -/
def keywords : List String :=
  ["if", "then", "elif", "else", "fi", "while", "until", "do", "done", "for", "\x7b", "\x7d", "!",
    "case", "esac"]

/-- The keyword that comes next. -/
def keyword? : Reading (Option String) := fun lexemes =>
  match lexemes with
  | .word _ phrase :: _ => some ((bare? phrase).filter keywords.contains, lexemes)
  | _ => some (none, lexemes)

/-- The lexeme that comes next. -/
def ahead : Reading (Option Lexeme) := fun lexemes =>
  some (lexemes.head?, lexemes)

/-- Pass over one lexeme. -/
def skip : Reading Unit := fun lexemes =>
  match lexemes with
  | [] => none
  | _ :: rest => some ((), rest)

/-- Pass over a keyword. -/
def expect (keyword : String) : Reading Unit := do
  if (← keyword?) = some keyword then skip else failure

/-- Pass over the ends of lines. -/
def skipLineEnds : Reading Unit := fun lexemes =>
  some ((), lexemes.dropWhile (· = .lineEnd))

/-- Whether an operator comes next; it is passed over. -/
def accept (spelling : String) : Reading Bool := fun lexemes =>
  match lexemes with
  | .operator _ s :: rest => if s = spelling then some (true, rest) else some (false, lexemes)
  | _ => some (false, lexemes)

/-- The word that comes next. -/
def phrase : Reading Phrase := fun lexemes =>
  match lexemes with
  | .word _ phrase :: rest => some (phrase, rest)
  | _ => none

/-- The words that come next. -/
def phrases : Reading (List Phrase) := fun lexemes =>
  let isWord : Lexeme → Bool
    | .word _ _ => true
    | _ => false
  some ((lexemes.takeWhile isWord).filterMap fun
      | .word _ phrase => some phrase
      | _ => none,
    lexemes.dropWhile isWord)

/-- What a redirection operator and a word stand for. -/
def reconnection? (descriptor : Option Nat) (spelling : String) (target : Phrase) :
    Option Reconnection :=
  match spelling with
  | "<" => some ⟨descriptor.getD 0, .file .read target⟩
  | ">" => some ⟨descriptor.getD 1, .file .truncate target⟩
  | ">>" => some ⟨descriptor.getD 1, .file .append target⟩
  | "<&" => some ⟨descriptor.getD 0, .copy target⟩
  | ">&" => some ⟨descriptor.getD 1, .copy target⟩
  | _ => none

/-- The name and the value of a word that is an assignment. -/
def assignment? : Phrase → Option (String × Phrase)
  | .literal text false :: rest =>
      let name := text.toList.takeWhile (· ≠ '=')
      if name.length < text.length && Lexeme.isName name then
        let value := String.ofList (text.toList.drop (name.length + 1))
        some (String.ofList name, if value = "" then rest else .literal value false :: rest)
      else none
  | _ => none

/-- The words and redirections of a simple command. -/
def simpleFrom (command : Simple) : List Lexeme → Option (Simple × List Lexeme)
  | .redirection descriptor spelling :: .word _ target :: rest =>
      match reconnection? descriptor spelling target with
      | none => none
      | some r => simpleFrom { command with reconnections := command.reconnections ++ [r] } rest
  | .redirection _ _ :: _ => none
  | .word _ phrase :: rest =>
      match if command.words = [] then assignment? phrase else none with
      | some pair => simpleFrom { command with assignments := command.assignments ++ [pair] } rest
      | none => simpleFrom { command with words := command.words ++ [phrase] } rest
  | rest => some (command, rest)

/-- The redirections after a compound command. -/
def reconnections : List Lexeme → Option (List Reconnection × List Lexeme)
  | .redirection descriptor spelling :: .word _ target :: rest =>
      match reconnection? descriptor spelling target, reconnections rest with
      | some r, some (more, rest) => some (r :: more, rest)
      | _, _ => none
  | .redirection _ _ :: _ => none
  | rest => some ([], rest)

/-- A simple command. -/
def simple : Reading Statement := fun lexemes =>
  match lexemes with
  | .word line _ :: _ =>
      (simpleFrom { line } lexemes).map fun (command, rest) => (.simple command, rest)
  | .redirection _ _ :: _ =>
      (simpleFrom { line := 1 } lexemes).map fun (command, rest) => (.simple command, rest)
  | _ => none

/-- Whether a list of commands ends here. -/
def atEnd : Reading Bool := fun lexemes =>
  match lexemes with
  | [] => some (true, lexemes)
  | .operator _ s :: _ => some (s = ")", lexemes)
  | .word _ phrase :: _ =>
      some ((bare? phrase).any (["then", "elif", "else", "fi", "do", "done", "\x7d"].contains ·),
        lexemes)
  | _ => some (false, lexemes)

mutual

/-- A list of commands. -/
def list : Nat → Reading Statement
  | 0 => failure
  | depth + 1 => do
      skipLineEnds
      if ← atEnd then return .nothing
      let first ← conditional depth
      let _ ← accept ";"
      return .sequence first (← list depth)

/-- Commands that depend on each other. -/
def conditional : Nat → Reading Statement
  | 0 => failure
  | depth + 1 => do conditionalFrom (← command depth) depth

/-- Commands that depend on the ones before. -/
def conditionalFrom (first : Statement) : Nat → Reading Statement
  | 0 => failure
  | depth + 1 => do
      if ← accept "&&" then
        skipLineEnds
        conditionalFrom (.andThen first (← command depth)) depth
      else if ← accept "||" then
        skipLineEnds
        conditionalFrom (.orElse first (← command depth)) depth
      else return first

/-- What follows the test of a condition. -/
def branches : Nat → Reading Statement
  | 0 => failure
  | depth + 1 => do
      let test ← list depth
      expect "then"
      let yes ← list depth
      match ← keyword? with
      | some "elif" => do
          skip
          return .condition test yes (← branches depth)
      | some "else" => do
          skip
          let no ← list depth
          expect "fi"
          return .condition test yes no
      | _ => do
          expect "fi"
          return .condition test yes .nothing

/-- One command. -/
def command : Nat → Reading Statement
  | 0 => failure
  | depth + 1 => do
      match ← keyword? with
      | some "if" => do
          skip
          let body ← branches depth
          return .group body (← reconnections)
      | some "while" => do
          skip
          let test ← list depth
          expect "do"
          let body ← list depth
          expect "done"
          return .group (.repetition true test body) (← reconnections)
      | some "until" => do
          skip
          let test ← list depth
          expect "do"
          let body ← list depth
          expect "done"
          return .group (.repetition false test body) (← reconnections)
      | some "for" => do
          skip
          match bare? (← phrase) with
          | none => failure
          | some name => do
              skipLineEnds
              let words ← (do
                match ← ahead with
                | some (.word _ [.literal "in" false]) => do
                    skip
                    return some (← phrases)
                | _ => return none)
              let _ ← accept ";"
              skipLineEnds
              expect "do"
              let body ← list depth
              expect "done"
              return .group (.iteration name words body) (← reconnections)
      | some "\x7b" => do
          skip
          let body ← list depth
          expect "\x7d"
          return .group body (← reconnections)
      | some "!" => do
          skip
          return .negation (← command depth)
      | some _ => failure
      | none => simple

end

end Parse

/-- The statement that a script spells. -/
def Statement.ofText? (text : List Char) : Option Statement :=
  match Parse.list (6 * text.length + 8) (Lexeme.scan text) with
  | some (statement, []) => some statement
  | _ => none

end Shell.Script
