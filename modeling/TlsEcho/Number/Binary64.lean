/-! # Binary floating-point numbers

The numbers of the 64-bit binary floating-point format as exact values: a finite number is a sign
and `mantissa * 2 ^ exponent`.

* `Binary64.ofRatio` rounds a quotient to the nearest number, a tie going to the even mantissa,
* `Binary64.ofDecimal` does so for a decimal number,
* `Binary64.ofText?` reads a decimal text. -/

namespace TlsEcho

/-- A number of the 64-bit binary floating-point format. -/
inductive Binary64
  | nan
  | infinite (negative : Bool)
  /-- The number `mantissa * 2 ^ exponent`, negated if `negative`. -/
  | finite (negative : Bool) (mantissa : Nat) (exponent : Int)
  deriving DecidableEq, Repr, Inhabited

namespace Binary64

/-- The bits of a full mantissa. -/
def precision : Nat := 53

/-- The least exponent. -/
def minExponent : Int := -1074

/-- The greatest exponent. -/
def maxExponent : Int := 971

/-- The quotient of two natural numbers rounded to the nearest integer, a tie going to the even
    one. -/
def roundDiv (num den : Nat) : Nat :=
  let q := num / den
  let twice := 2 * (num % den)
  if twice < den then q
  else if den < twice then q + 1
  else q + q % 2

/-- The quotient `num / (den * 2 ^ exponent)` as a pair of natural numbers. -/
def scaled (num den : Nat) (exponent : Int) : Nat × Nat :=
  if 0 ≤ exponent then (num, den * Nat.pow 2 exponent.toNat)
  else (num * Nat.pow 2 (-exponent).toNat, den)

/-- The exponent at which a positive quotient has a full mantissa, or the least exponent. -/
def exponentOf (num den : Nat) : Int :=
  let guess : Int := (num.log2 : Int) - (den.log2 : Int) - (precision : Int)
  let (n, d) := scaled num den guess
  let fitting := if n / d < Nat.pow 2 precision then guess else guess + 1
  max fitting minExponent

/-- The number nearest to a quotient, infinite if that is beyond the greatest one. -/
def ofRatio (negative : Bool) (num den : Nat) : Binary64 :=
  if num = 0 then .finite negative 0 minExponent
  else
    let exponent := exponentOf num den
    let (n, d) := scaled num den exponent
    let mantissa := roundDiv n d
    let (mantissa, exponent) :=
      if mantissa < Nat.pow 2 precision then (mantissa, exponent) else (mantissa / 2, exponent + 1)
    if maxExponent < exponent then .infinite negative else .finite negative mantissa exponent

/-- The number nearest to an integer. -/
def ofInt (n : Int) : Binary64 := ofRatio (n < 0) n.natAbs 1

/-- How many decimal digits a natural number has; zero has none. -/
def decimalLength (n : Nat) : Nat := if n = 0 then 0 else (Nat.toDigits 10 n).length

/-- The number nearest to `digits * 10 ^ exponent`.  Numbers that are out of reach by far are not
    multiplied out. -/
def ofDecimal (negative : Bool) (digits : Nat) (exponent : Int) : Binary64 :=
  let magnitude : Int := (decimalLength digits : Int) + exponent
  if digits = 0 ∨ magnitude < -400 then .finite negative 0 minExponent
  else if 400 < magnitude then .infinite negative
  else if 0 ≤ exponent then ofRatio negative (digits * Nat.pow 10 exponent.toNat) 1
  else ofRatio negative digits (Nat.pow 10 (-exponent).toNat)

/-- The value of a run of decimal digits, continuing from `acc`. -/
def digitsValue (acc : Nat) (cs : List Char) : Nat :=
  cs.foldl (fun n c => n * 10 + (c.toNat - '0'.toNat)) acc

/-- The exponent that a text such as `e+12` stands for; the empty text stands for zero. -/
def exponentOfText? : List Char → Option Int
  | [] => some 0
  | e :: rest =>
    if e = 'e' ∨ e = 'E' then
      let (negative, digits) := match rest with
        | '-' :: ds => (true, ds)
        | '+' :: ds => (false, ds)
        | ds => (false, ds)
      if digits ≠ [] ∧ digits.all Char.isDigit then
        let n : Int := digitsValue 0 digits
        some (if negative then -n else n)
      else none
    else none

/-- Reads a decimal number without a sign: digits, a point with digits, an exponent. -/
def unsignedOfText? (negative : Bool) (cs : List Char) : Option Binary64 :=
  let whole := cs.takeWhile Char.isDigit
  let rest := cs.dropWhile Char.isDigit
  let (fraction, rest) := match rest with
    | '.' :: r => (r.takeWhile Char.isDigit, r.dropWhile Char.isDigit)
    | r => ([], r)
  if whole = [] ∧ fraction = [] then none
  else
    (exponentOfText? rest).map fun exponent =>
      ofDecimal negative (digitsValue (digitsValue 0 whole) fraction) (exponent - fraction.length)

/-- Reads a number: an optional sign, then `inf`, `nan` or a decimal number. -/
def ofText? (text : List Char) : Option Binary64 :=
  let (negative, cs) := match text with
    | '-' :: r => (true, r)
    | '+' :: r => (false, r)
    | r => (false, r)
  let word := cs.map Char.toLower
  if word = "inf".toList ∨ word = "infinity".toList then some (.infinite negative)
  else if word = "nan".toList then some .nan
  else unsignedOfText? negative cs

end Binary64

end TlsEcho
