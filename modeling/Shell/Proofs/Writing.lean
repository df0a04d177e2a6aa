import Shell.Token.Scan

/-!
# Tokens — written down

A list of tokens can be written as a line in many ways.  An operator is written as it is spelled.  A
word is written in pieces (`Segment`): characters without a meaning of their own, a character after
a backslash, a text between single or double quotes.  Spaces may stand anywhere around the tokens,
and must stand between neighbours that would run into each other (`Token.mayTouch`).

`Token.WrittenAs` says that a text is one token written down, and `Writing` that a line is a list of
tokens written down.
-/

namespace Shell

/-- A piece of a written word. -/
inductive Segment where
  | bare (text : List Char)
  | escaped (c : Char)
  | singleQuoted (text : List Char)
  /-- Each character with whether a backslash stands before it. -/
  | doubleQuoted (text : List (Char × Bool))
  deriving DecidableEq, Repr

namespace Segment

/-- The characters that have a meaning of their own outside quotes. -/
def isSpecial (c : Char) : Bool :=
  c = ' ' || c = '\'' || c = '"' || c = '\\' || c = '<' || c = '>'

/-- The characters that a piece stands for. -/
def text : Segment → List Char
  | bare text | singleQuoted text => text
  | escaped c => [c]
  | doubleQuoted text => text.map Prod.fst

/-- A character between double quotes as it is written. -/
def quotedChar : Char × Bool → List Char
  | (c, true) => ['\\', c]
  | (c, false) => [c]

/-- The characters that a piece is written with. -/
def written : Segment → List Char
  | bare text => text
  | escaped c => ['\\', c]
  | singleQuoted text => '\'' :: text ++ ['\'']
  | doubleQuoted text => '"' :: text.flatMap quotedChar ++ ['"']

/-- Whether a character between double quotes may be written with a backslash, or without. -/
def admits : Char × Bool → Bool
  | (c, true) => ['"', '\\', '\x60', '$', '\n'].contains c
  | (c, false) => c ≠ '"' && c ≠ '\\'

/-- Whether the characters of a piece can be written the way it says. -/
def fits : Segment → Bool
  | bare text => text.all (!isSpecial ·)
  | escaped _ => true
  | singleQuoted text => !text.contains '\''
  | doubleQuoted text => text.all admits

end Segment

namespace Token

/-- The redirect operators. -/
def operators : List String :=
  [">", ">>", "1>", "1>>", "2>", "2>>", "&>", "&>>", "<"]

/-- A text is a token written down. -/
inductive WrittenAs : Token → List Char → Prop where
  | word {segments : List Segment} (fits : ∀ s ∈ segments, s.fits)
      (nonempty : segments.flatMap Segment.text ≠ []) :
      WrittenAs (.word (String.ofList (segments.flatMap Segment.text)))
        (segments.flatMap Segment.written)
  | operator {spelling : String} (known : spelling ∈ operators) :
      WrittenAs (.operator spelling) spelling.toList

/-- Whether the second token may be written right behind the first, without a space. -/
def mayTouch : Token → Token → Bool
  | .word _, .word _ => false
  | .word text, .operator next =>
      next = "<" || ((next = ">" || next = ">>") && text ≠ "1" && text ≠ "2" && text ≠ "&")
  | .operator _, .word _ => true
  | .operator spelling, .operator next =>
      spelling = "<" || ['>', '>'].isSuffixOf spelling.toList || (next ≠ ">" && next ≠ ">>")

/-- Whether a token has characters and, if it is an operator, is a known one. -/
def IsProper : Token → Prop
  | .word text => text ≠ ""
  | .operator spelling => spelling ∈ operators

theorem WrittenAs.isProper {token : Token} {text : List Char} (h : token.WrittenAs text) :
    token.IsProper := by
  cases h with
  | word _ nonempty => simpa [IsProper] using nonempty
  | operator known => exact known

end Token

/-- A line is a list of tokens written down behind the token `before`, if there is one. -/
inductive Writing : Option Token → List Token → List Char → Prop where
  | nil (before : Option Token) (spaces : Nat) : Writing before [] (List.replicate spaces ' ')
  | cons {before : Option Token} {token : Token} {tokens : List Token} {text line : List Char}
      (spaces : Nat) (apart : spaces = 0 → ∀ previous ∈ before, previous.mayTouch token)
      (first : token.WrittenAs text) (rest : Writing (some token) tokens line) :
      Writing before (token :: tokens) (List.replicate spaces ' ' ++ text ++ line)

end Shell
