import TlsEcho.Number.Binary64

/-! # The shortest decimal text of a binary number

Among the decimal numbers that round to a given binary number, `shortest` picks one with the
fewest digits, and of those the nearest, a tie going up.  `Binary64.positional` writes it without
an exponent. -/

namespace TlsEcho.Binary64

/-- The decimal numbers that round to a binary number lie between two bounds.  All quantities are
    multiples of `1 / den`. -/
structure Neighbourhood where
  value : Nat
  low : Nat
  high : Nat
  den : Nat
  /-- Whether the bounds themselves round to the number. -/
  closed : Bool

/-- The neighbourhood of a positive number.  Below a power of two the gap is half as wide. -/
def neighbourhood (mantissa : Nat) (exponent : Int) : Neighbourhood :=
  let atPower := decide (mantissa = Nat.pow 2 (precision - 1) ∧ minExponent < exponent)
  let (up, den) : Nat × Nat :=
    if 0 ≤ exponent then (Nat.pow 2 exponent.toNat, 4) else (1, 4 * Nat.pow 2 (-exponent).toNat)
  { value := 4 * mantissa * up
    low := (4 * mantissa - (if atPower then 1 else 2)) * up
    high := (4 * mantissa + 2) * up
    den
    closed := mantissa % 2 = 0 }

/-- Whether `digits * 10 ^ exponent` lies in a neighbourhood. -/
def Neighbourhood.contains (n : Neighbourhood) (digits : Nat) (exponent : Int) : Bool :=
  let (point, scale) : Nat × Nat :=
    if 0 ≤ exponent then (digits * Nat.pow 10 exponent.toNat * n.den, 1)
    else (digits * n.den, Nat.pow 10 (-exponent).toNat)
  if n.closed then n.low * scale ≤ point && point ≤ n.high * scale
  else n.low * scale < point && point < n.high * scale

/-- The two points of the grid `10 ^ exponent` next to the value: the one below it, and whether
    that is the nearer one. -/
def Neighbourhood.below (n : Neighbourhood) (exponent : Int) : Nat × Bool :=
  let (num, den) : Nat × Nat :=
    if 0 ≤ exponent then (n.value, n.den * Nat.pow 10 exponent.toNat)
    else (n.value * Nat.pow 10 (-exponent).toNat, n.den)
  (num / den, 2 * (num % den) < den)

/-- The point of a grid that lies in the neighbourhood.  If both do, it is the nearer one, and the
    greater one if they are equally near. -/
def Neighbourhood.gridPoint? (n : Neighbourhood) (exponent : Int) : Option (Nat × Int) :=
  let (down, nearer) := n.below exponent
  let downIn := n.contains down exponent
  let upIn := n.contains (down + 1) exponent
  if downIn && (nearer || !upIn) then some (down, exponent)
  else if upIn then some (down + 1, exponent)
  else none

/-- Searches grids from coarse to fine, at most `fuel` of them. -/
def Neighbourhood.search (n : Neighbourhood) : (fuel : Nat) → (exponent : Int) → Nat × Int
  | 0, exponent => ((n.below exponent).1, exponent)
  | fuel + 1, exponent =>
    match n.gridPoint? exponent with
    | some point => point
    | none => n.search fuel (exponent - 1)

/-- The shortest decimal number that rounds to a positive number, as digits and a power of ten. -/
def shortest (mantissa : Nat) (exponent : Int) : Nat × Int :=
  let n := neighbourhood mantissa exponent
  let top : Int := (decimalLength (n.value / n.den) : Int)
  let start := if n.value / n.den = 0 then
      1 - (decimalLength (n.den / n.value) : Int)
    else top
  n.search 40 start

/-- A decimal number written out with all its places. -/
def writeOut (digits : Nat) (exponent : Int) : List Char :=
  let ds := Nat.toDigits 10 digits
  if 0 ≤ exponent then ds ++ List.replicate exponent.toNat '0'
  else
    let places := (-exponent).toNat
    let padded := List.replicate (places + 1 - ds.length) '0' ++ ds
    let whole := padded.length - places
    padded.take whole ++ '.' :: padded.drop whole

/-- A number with the fewest digits and no exponent. -/
def positional : Binary64 → List Char
  | .nan => "NaN".toList
  | .infinite negative => (if negative then ['-'] else []) ++ "inf".toList
  | .finite negative mantissa exponent =>
    (if negative then ['-'] else []) ++
      if mantissa = 0 then ['0']
      else
        let (digits, power) := shortest mantissa exponent
        writeOut digits power

end TlsEcho.Binary64
