import TlsEcho.Toml.Text
import TlsEcho.Toml.Value

/-! # Numbers, dates and times of TOML -/

namespace TlsEcho.Toml

/-! ## Digits -/

/-- The rest of a run of digits, in which single underscores may stand between digits. -/
def moreDigits (isDigit : Char → Bool) : List Char → Option (List Char × List Char)
  | [] => some ([], [])
  | '_' :: rest =>
    match rest with
    | d :: rest => if isDigit d then consRead d (moreDigits isDigit rest) else none
    | [] => none
  | c :: rest => if isDigit c then consRead c (moreDigits isDigit rest) else some ([], c :: rest)

/-- A run of at least one digit. -/
def someDigits (isDigit : Char → Bool) : Reader (List Char)
  | c :: rest => if isDigit c then consRead c (moreDigits isDigit rest) else none
  | [] => none

/-- The decimal value of digits. -/
def decimalValue (ds : List Char) : Nat := Binary64.digitsValue 0 ds

/-! ## Integers and floating-point numbers -/

/-- A sign, negative or not, and the rest. -/
def sign (cs : List Char) : Bool × List Char :=
  match cs with
  | '-' :: rest => (true, rest)
  | '+' :: rest => (false, rest)
  | _ => (false, cs)

/-- The whole part of a decimal number: no digit may follow a leading zero. -/
def wholePart : Reader (List Char)
  | '0' :: rest => some (['0'], rest)
  | cs => someDigits Char.isDigit cs

/-- An integer, if it has 64 bits. -/
def integer? (n : Int) : Option Value :=
  if -9223372036854775808 ≤ n ∧ n < 9223372036854775808 then some (.integer n) else none

/-- Reads a non-negative integer of another base. -/
def basedInteger (base : Nat) (isDigit : Char → Bool) : Reader Value := fun cs =>
  (someDigits isDigit cs).bind fun (ds, rest) =>
    let n := ds.foldl (fun n d => n * base + (hexValue? d).getD 0) 0
    (integer? n).map fun v => (v, rest)

/-- The part of a number from the letter of the exponent on; no exponent counts as zero. -/
def exponentPart : Reader Int
  | c :: rest =>
    if c = 'e' ∨ c = 'E' then
      let (negative, rest) := sign rest
      (someDigits Char.isDigit rest).map fun (ds, rest) =>
        let n : Int := decimalValue ds
        (if negative then -n else n, rest)
    else some (0, c :: rest)
  | [] => some (0, [])

/-- A floating-point number, unless it is too great. -/
def float? (negative : Bool) (digits : Nat) (exponent : Int) : Option Value :=
  match Binary64.ofDecimal negative digits exponent with
  | .infinite false => none
  | x => some (.float x)

/-- Reads the rest of a decimal number after its whole part. -/
def afterWhole (negative : Bool) (whole : List Char) : Reader Value := fun cs =>
  match cs with
  | '.' :: rest =>
    (someDigits Char.isDigit rest).bind fun (fraction, rest) =>
      (exponentPart rest).bind fun (exponent, rest) =>
        (float? negative (decimalValue (whole ++ fraction)) (exponent - fraction.length)).map
          fun v => (v, rest)
  | c :: _ =>
    if c = 'e' ∨ c = 'E' then
      (exponentPart cs).bind fun (exponent, rest) =>
        (float? negative (decimalValue whole) exponent).map fun v => (v, rest)
    else integerOf cs
  | [] => integerOf cs
where
  integerOf (rest : List Char) : Option (Value × List Char) :=
    let n : Int := decimalValue whole
    (integer? (if negative then -n else n)).map fun v => (v, rest)

/-- Reads a number. -/
def number : Reader Value := fun cs =>
  match cs with
  | '0' :: 'x' :: rest => basedInteger 16 (fun c => (hexValue? c).isSome) rest
  | '0' :: 'o' :: rest => basedInteger 8 (fun c => '0' ≤ c && c ≤ '7') rest
  | '0' :: 'b' :: rest => basedInteger 2 (fun c => c = '0' || c = '1') rest
  | _ =>
    let (negative, rest) := sign cs
    match rest with
    | 'i' :: 'n' :: 'f' :: rest => some (.float (.infinite negative), rest)
    | 'n' :: 'a' :: 'n' :: rest => some (.float .nan, rest)
    | _ => (wholePart rest).bind fun (whole, rest) => afterWhole negative whole rest

/-! ## Dates and times -/

/-- Reads exactly two digits with a value between two bounds. -/
def twoDigits (low high : Nat) : Reader Nat
  | a :: b :: rest =>
    let n := decimalValue [a, b]
    if a.isDigit ∧ b.isDigit ∧ low ≤ n ∧ n ≤ high then some (n, rest) else none
  | _ => none

/-- Takes a given character off the front. -/
def expect? (c : Char) : List Char → Option (List Char)
  | x :: rest => if x = c then some rest else none
  | [] => none

/-- How many days a month has. -/
def daysIn (year month : Nat) : Nat :=
  if month = 2 then
    if year % 4 = 0 ∧ (year % 100 ≠ 0 ∨ year % 400 = 0) then 29 else 28
  else if month = 4 ∨ month = 6 ∨ month = 9 ∨ month = 11 then 30
  else 31

/-- Takes the rest of a time after its hour and the first colon. -/
def afterHour? (cs : List Char) : Option (List Char) := do
  let (_, cs) ← twoDigits 0 59 cs
  let cs ← expect? ':' cs
  let (_, cs) ← twoDigits 0 60 cs
  match cs with
  | '.' :: rest =>
    let digits := rest.takeWhile Char.isDigit
    if digits = [] then none else some (rest.dropWhile Char.isDigit)
  | cs => some cs

/-- Takes the offset from universal time, if there is one. -/
def offset? (cs : List Char) : Option (List Char) :=
  match cs with
  | 'Z' :: rest | 'z' :: rest => some rest
  | '+' :: rest | '-' :: rest => do
    let (_, cs) ← twoDigits 0 23 rest
    let cs ← expect? ':' cs
    let (_, cs) ← twoDigits 0 59 cs
    pure cs
  | cs => some cs

/-- Takes the time that may follow a date. -/
def timeAfterDate? (cs : List Char) : Option (List Char) :=
  match cs with
  | t :: rest =>
    if t = 'T' ∨ t = 't' ∨ t = ' ' then
      match twoDigits 0 23 rest with
      | some (_, ':' :: rest) => (afterHour? rest).bind offset?
      | _ => some cs
    else some cs
  | [] => some []

/-- Takes the rest of a date after its year and the first hyphen, and a time if one follows. -/
def afterYear? (year : Nat) (cs : List Char) : Option (List Char) := do
  let (month, cs) ← twoDigits 1 12 cs
  let cs ← expect? '-' cs
  let (day, cs) ← twoDigits 1 31 cs
  if daysIn year month < day then none
  else timeAfterDate? cs

/-- A date or time with its text, given what follows it. -/
def datetimeUpTo (start rest : List Char) : Value × List Char :=
  (.datetime (String.ofList (start.take (start.length - rest.length))), rest)

/-- Reads a number, a date or a time. -/
def numberOrDate : Reader Value := fun cs =>
  match cs with
  | a :: b :: c :: d :: '-' :: rest =>
    if [a, b, c, d].all Char.isDigit then
      (afterYear? (decimalValue [a, b, c, d]) rest).map (datetimeUpTo cs)
    else number cs
  | a :: b :: ':' :: rest =>
    if [a, b].all Char.isDigit ∧ decimalValue [a, b] ≤ 23 then
      (afterHour? rest).map (datetimeUpTo cs)
    else number cs
  | _ => number cs

end TlsEcho.Toml
