/-! # Reading integers

An integer is written with decimal digits, after a sign if it has one.  It is read into 64 bits;
what is wrong with a text is decided by its first character that is wrong. -/

namespace TlsEcho

/-- Why a text is not an integer. -/
inductive IntegerFault
  | empty
  | invalidDigit
  | tooLarge
  | tooSmall
  deriving DecidableEq, Repr

/-- The text of the fault. -/
def IntegerFault.message : IntegerFault → String
  | .empty => "cannot parse integer from empty string"
  | .invalidDigit => "invalid digit found in string"
  | .tooLarge => "number too large to fit in target type"
  | .tooSmall => "number too small to fit in target type"

/-- The greatest magnitude of an integer in 64 bits. -/
def magnitudeLimit (negative : Bool) : Nat :=
  if negative then 9223372036854775808 else 9223372036854775807

/-- Reads digits, continuing from `n`. -/
def readDigits (negative : Bool) (n : Nat) : List Char → Except IntegerFault Nat
  | [] => .ok n
  | c :: rest =>
    if c.isDigit then
      let n := n * 10 + (c.toNat - '0'.toNat)
      if n ≤ magnitudeLimit negative then readDigits negative n rest
      else .error (if negative then .tooSmall else .tooLarge)
    else .error .invalidDigit

/-- Reads an integer. -/
def readInteger (text : String) : Except IntegerFault Int :=
  match text.toList with
  | [] => .error .empty
  | ['-'] | ['+'] => .error .invalidDigit
  | '-' :: digits => (readDigits true 0 digits).map fun n => -(n : Int)
  | '+' :: digits => (readDigits false 0 digits).map fun n => (n : Int)
  | digits => (readDigits false 0 digits).map fun n => (n : Int)

end TlsEcho
