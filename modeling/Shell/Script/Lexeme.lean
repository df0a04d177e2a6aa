import Shell.Script.Grammar

/-!
# Scripts — lexemes

The words, operators and line ends of a script.  Quotes are resolved into pieces, comments and
continued line ends are left out, and a redirection operator takes up the single digit before it.
-/

namespace Shell.Script

/-- A lexeme of a script, with the line it stands on. -/
inductive Lexeme where
  | word (line : Nat) (phrase : Phrase)
  | operator (line : Nat) (spelling : String)
  /-- A redirection operator and the descriptor named before it. -/
  | redirection (descriptor : Option Nat) (spelling : String)
  | lineEnd
  deriving DecidableEq, Repr

namespace Lexeme

/-- Whether a character can stand in the name of a variable. -/
def isNameChar (c : Char) : Bool :=
  c.isAlphanum || c = '_'

/-- Whether a text can name a variable. -/
def isName (text : List Char) : Bool :=
  text ≠ [] && text.all isNameChar && !(text.head?.any Char.isDigit)

/-- The parameter named after a dollar sign, and what follows it. -/
def parameter? : List Char → Option (String × List Char)
  | '\x7b' :: rest =>
      match rest.dropWhile (· ≠ '\x7d') with
      | '\x7d' :: after => some (String.ofList (rest.takeWhile (· ≠ '\x7d')), after)
      | _ => none
  | c :: rest =>
      if c.isDigit || c = '@' || c = '*' || c = '#' || c = '?' || c = '$' || c = '!' || c = '-' then
        some (c.toString, rest)
      else if isNameChar c then
        some (String.ofList ((c :: rest).takeWhile isNameChar), (c :: rest).dropWhile isNameChar)
      else none
  | [] => none

/-- A phrase, latest piece first, with one character more. -/
def push (phrase : Phrase) (c : Char) (quoted : Bool) : Phrase :=
  match phrase with
  | .literal text q :: rest =>
      if q = quoted then .literal (text.push c) q :: rest
      else .literal c.toString quoted :: phrase
  | _ => .literal c.toString quoted :: phrase

/-- The finished word, if one was begun. -/
def finished (line : Nat) : Option Phrase → List Lexeme
  | none => []
  | some phrase => [.word line phrase.reverse]

/-- The descriptor that a begun word names, if it is a single digit. -/
def descriptor? : Option Phrase → Option Nat
  | some [.literal text false] =>
      match text.toList with
      | [c] => if c.isDigit then some (c.toNat - '0'.toNat) else none
      | _ => none
  | _ => none

/-- Whether the scan is between double quotes. -/
inductive Place where
  | bare
  | quoted
  deriving DecidableEq

/-- The operators of more than one character, the longest first. -/
def longOperators : List String := ["&&", "||", ";;"]

/-- The lexemes of a script through so many steps. -/
def scanWithin (place : Place) (line : Nat) (word : Option Phrase) :
    Nat → List Char → List Lexeme
  | 0, _ => finished line word
  | _, [] => finished line word
  | steps + 1, c :: rest =>
      match place with
      | .quoted =>
          match c, rest with
          | '"', rest => scanWithin .bare line word steps rest
          | '\\', '\n' :: rest => scanWithin .quoted (line + 1) word steps rest
          | '\\', d :: rest =>
              let phrase := word.getD []
              if d = '"' || d = '\\' || d = '$' || d = '\x60' then
                scanWithin .quoted line (some (push phrase d true)) steps rest
              else
                scanWithin .quoted line (some (push (push phrase '\\' true) d true)) steps rest
          | '$', rest =>
              match parameter? rest with
              | some (name, rest) =>
                  scanWithin .quoted line (some (.parameter name true :: word.getD [])) steps rest
              | none => scanWithin .quoted line (some (push (word.getD []) '$' true)) steps rest
          | c, rest =>
              scanWithin .quoted (if c = '\n' then line + 1 else line)
                (some (push (word.getD []) c true)) steps rest
      | .bare =>
          match c, rest with
          | '\n', rest =>
              finished line word ++ .lineEnd :: scanWithin .bare (line + 1) none steps rest
          | ' ', rest | '\t', rest => finished line word ++ scanWithin .bare line none steps rest
          | '\\', '\n' :: rest => scanWithin .bare (line + 1) word steps rest
          | '\\', d :: rest =>
              scanWithin .bare line (some (push (word.getD []) d true)) steps rest
          | '\'', rest =>
              let inner := rest.takeWhile (· ≠ '\'')
              scanWithin .bare (line + inner.count '\n')
                (some (.literal (String.ofList inner) true :: word.getD [])) steps
                (rest.drop (inner.length + 1))
          | '"', rest =>
              scanWithin .quoted line (some (.literal "" true :: word.getD [])) steps rest
          | '$', rest =>
              match parameter? rest with
              | some (name, rest) =>
                  scanWithin .bare line (some (.parameter name false :: word.getD [])) steps rest
              | none => scanWithin .bare line (some (push (word.getD []) '$' false)) steps rest
          | '>', rest | '<', rest =>
              let number := descriptor? word
              let before := if number.isSome then [] else finished line word
              let (spelling, rest) :=
                match c, rest with
                | '>', '>' :: rest => (">>", rest)
                | c, '&' :: rest => (c.toString ++ "&", rest)
                | c, rest => (c.toString, rest)
              before ++ .redirection number spelling :: scanWithin .bare line none steps rest
          | ';', rest | '&', rest | '|', rest | '(', rest | ')', rest =>
              let long := String.ofList (c :: rest.take 1)
              if longOperators.contains long then
                finished line word ++ .operator line long
                  :: scanWithin .bare line none steps (rest.drop 1)
              else
                finished line word ++ .operator line c.toString
                  :: scanWithin .bare line none steps rest
          | '#', rest =>
              match word with
              | none => scanWithin .bare line none steps (rest.dropWhile (· ≠ '\n'))
              | some phrase => scanWithin .bare line (some (push phrase '#' false)) steps rest
          | c, rest => scanWithin .bare line (some (push (word.getD []) c false)) steps rest

/-- The lexemes of a script. -/
def scan (text : List Char) : List Lexeme :=
  scanWithin .bare 1 none text.length text

end Lexeme

end Shell.Script
