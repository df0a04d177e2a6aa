/-!
# Text — whole numbers

The decimal notation of a whole number of 32 bits: an optional sign and at least one digit, leading
zeros allowed.  The digits are read from the left, and the first thing wrong decides the error.
-/

namespace Shell.Text

/-- Why a text is no whole number of 32 bits. -/
inductive IntegerError where
  | empty
  | badDigit
  | tooLarge
  | tooSmall
  deriving DecidableEq, Repr

/-- The report of an error in words. -/
def IntegerError.message : IntegerError → String
  | empty => "cannot parse integer from empty string"
  | badDigit => "invalid digit found in string"
  | tooLarge => "number too large to fit in target type"
  | tooSmall => "number too small to fit in target type"

/-- The numbers of 32 bits reach from minus this to one less. -/
def integerBound : Nat := 2147483648

/-- The number that digits add to what was read before, if it stays within a limit. -/
def digits (limit : Nat) (beyond : IntegerError) (read : Nat) :
    List Char → Except IntegerError Nat
  | [] => .ok read
  | c :: rest =>
      if !c.isDigit then .error .badDigit
      else
        let read := 10 * read + (c.toNat - '0'.toNat)
        if limit < read then .error beyond else digits limit beyond read rest

/-- The whole number of 32 bits that a text spells. -/
def integer (text : String) : Except IntegerError Int :=
  match text.toList with
  | [] => .error .empty
  | ['+'] | ['-'] => .error .badDigit
  | '-' :: rest => (digits integerBound .tooSmall 0 rest).map fun n : Nat => -(n : Int)
  | '+' :: rest => (digits (integerBound - 1) .tooLarge 0 rest).map fun n : Nat => (n : Int)
  | rest => (digits (integerBound - 1) .tooLarge 0 rest).map fun n : Nat => (n : Int)

end Shell.Text
