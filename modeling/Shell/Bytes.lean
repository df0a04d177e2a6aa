/-!
# Bytes

What files hold and streams carry: lists of bytes, with their reading as UTF-8 text.  `Bytes.ofText`
writes a text down and `Bytes.text?` reads bytes back; the two agree (`text?_ofText`), and writing
down respects concatenation (`ofText_append`).  `Bytes.splitLine` cuts after the first newline,
`Bytes.splitLines` after the last one.
-/

namespace Shell

/-- The content of a file, or what passes through a stream. -/
abbrev Bytes := List UInt8

namespace Bytes

/-- The UTF-8 form of a text. -/
def ofText (text : String) : Bytes :=
  text.toByteArray.data.toList

/-- The text that the bytes spell, if they are well-formed UTF-8. -/
def text? (bytes : Bytes) : Option String :=
  String.fromUTF8? ⟨bytes.toArray⟩

/-- The byte that ends a line. -/
def newline : UInt8 := 10

/-- The bytes up to and including the first newline, and the rest. -/
def splitLine : Bytes → Bytes × Bytes
  | [] => ([], [])
  | b :: rest => if b = newline then ([b], rest) else (b :: (splitLine rest).1, (splitLine rest).2)

/-- The bytes up to and including the last newline, and the rest. -/
def splitLines : Bytes → Bytes × Bytes
  | [] => ([], [])
  | b :: rest =>
      if b ≠ newline && (splitLines rest).1 = [] then ([], b :: (splitLines rest).2)
      else (b :: (splitLines rest).1, (splitLines rest).2)

@[simp]
theorem ofText_append (s t : String) : ofText (s ++ t) = ofText s ++ ofText t := by
  simp [ofText]

@[simp]
theorem text?_ofText (s : String) : text? (ofText s) = some s := by
  unfold text? ofText String.fromUTF8?
  rw [dif_pos s.isValidUTF8]
  rfl

@[simp]
theorem splitLine_append (bytes : Bytes) : (splitLine bytes).1 ++ (splitLine bytes).2 = bytes := by
  induction bytes with
  | nil => rfl
  | cons b rest ih =>
      by_cases h : b = newline
      · simp [splitLine, h]
      · simp [splitLine, h, ih]

@[simp]
theorem splitLines_append (bytes : Bytes) :
    (splitLines bytes).1 ++ (splitLines bytes).2 = bytes := by
  induction bytes with
  | nil => rfl
  | cons b rest ih =>
      rw [splitLines]
      split
      · rename_i none
        simp only [Bool.and_eq_true, decide_eq_true_eq] at none
        rw [none.2, List.nil_append] at ih
        rw [List.nil_append, ih]
      · rw [List.cons_append, ih]

/-- Nothing is left behind a newline at the end. -/
theorem splitLines_of_ended {bytes : Bytes} (ended : bytes.getLast? = some newline) :
    splitLines bytes = (bytes, []) := by
  induction bytes with
  | nil => cases ended
  | cons b rest ih =>
      cases rest with
      | nil =>
          obtain rfl : b = newline := by simpa using ended
          rfl
      | cons b' rest =>
          rw [splitLines, ih (by simpa using ended)]
          simp

end Bytes

end Shell
