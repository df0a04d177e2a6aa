/-!
# Text — blanks

The characters with the white-space property, and what is decided by them: a line is blank when it
holds nothing else (`isBlankLine`), and `trim` drops them at both ends of a text and nowhere else.
-/

namespace Shell.Text

/-- A character with the white-space property. -/
def isBlank (c : Char) : Bool :=
  let n := c.toNat
  (9 ≤ n && n ≤ 13) || n = 0x20 || n = 0x85 || n = 0xA0 || n = 0x1680
    || (0x2000 ≤ n && n ≤ 0x200A) || n = 0x2028 || n = 0x2029 || n = 0x202F || n = 0x205F
    || n = 0x3000

/-- Whether a text holds nothing but blanks. -/
def isBlankLine (text : String) : Bool :=
  text.toList.all isBlank

/-- The characters without the blanks at either end. -/
def trimmed (text : List Char) : List Char :=
  ((text.dropWhile isBlank).reverse.dropWhile isBlank).reverse

/-- The text without the blanks at either end. -/
def trim (text : String) : String :=
  String.ofList (trimmed text.toList)

@[simp]
theorem toList_trim (text : String) : (trim text).toList = trimmed text.toList := by
  simp [trim]

end Shell.Text
