/-!
# Tokens

What a line is cut into: words, whose quotes and escapes are already resolved, and the redirect
operators between them, kept as they are spelled.
-/

namespace Shell

/-- A piece of a command line. -/
inductive Token where
  /-- Literal text. -/
  | word (text : String)
  /-- A redirect operator. -/
  | operator (spelling : String)
  deriving DecidableEq, Repr, Inhabited

/-- The characters of a token, whatever it is. -/
def Token.text : Token → String
  | word text => text
  | operator spelling => spelling

end Shell
