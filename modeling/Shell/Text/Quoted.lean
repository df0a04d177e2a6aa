import Shell.Text.Property

/-!
# Text — quoted form

How a text is shown inside a log record: between double quotes, with a backslash before a quote or
a backslash, with short names for the common controls, and with the code point in braces for a
character that has no visible form or that would attach to its neighbour.
-/

namespace Shell.Text

/-- The lower-case hexadecimal digits of a number. -/
def hexDigits (n : Nat) : List Char :=
  Nat.toDigits 16 n

/-- Whether a character is shown by its code point: it would attach to its neighbour, or it cannot
be seen. -/
def isHidden (c : Char) : Bool :=
  (Property.holds Property.extending c && !Property.holds Property.selfStanding c)
    || Property.holds Property.invisible c

/-- One character as it stands in a quoted text. -/
def quotedChar (c : Char) : List Char :=
  if c = '\x00' then ['\\', '0']
  else if c = '\t' then ['\\', 't']
  else if c = '\r' then ['\\', 'r']
  else if c = '\n' then ['\\', 'n']
  else if c = '"' || c = '\\' then ['\\', c]
  else if c.toNat < 0x7F && 0x20 ≤ c.toNat then [c]
  else if isHidden c then
    ['\\', 'u', '\x7b'] ++ hexDigits c.toNat ++ ['\x7d']
  else [c]

/-- A text between double quotes, readable on one line. -/
def quoted (text : String) : String :=
  String.ofList ('"' :: text.toList.flatMap quotedChar ++ ['"'])

end Shell.Text
