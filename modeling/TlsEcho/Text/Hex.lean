/-! # Fixed-width hexadecimal text

`Hex.digits w n` writes the last `w` hexadecimal digits of `n`, most significant first and in
lower case.  `Hex.value?` reads such digits back. -/

namespace TlsEcho.Text.Hex

/-- The lower-case digit for a value below sixteen. -/
def digit (n : Nat) : Char :=
  if n < 10 then Char.ofNat ('0'.toNat + n) else Char.ofNat ('a'.toNat + (n - 10))

/-- The value of a hexadecimal digit of either case. -/
def digitValue? (c : Char) : Option Nat :=
  if '0' ≤ c ∧ c ≤ '9' then some (c.toNat - '0'.toNat)
  else if 'a' ≤ c ∧ c ≤ 'f' then some (c.toNat - 'a'.toNat + 10)
  else if 'A' ≤ c ∧ c ≤ 'F' then some (c.toNat - 'A'.toNat + 10)
  else none

/-- The last `width` hexadecimal digits of `n`. -/
def digits : (width : Nat) → (n : Nat) → List Char
  | 0, _ => []
  | width + 1, n => digits width (n / 16) ++ [digit (n % 16)]

/-- The number that a run of hexadecimal digits stands for, continuing from `acc`. -/
def valueFrom? (acc : Nat) : List Char → Option Nat
  | [] => some acc
  | c :: cs => (digitValue? c).bind fun d => valueFrom? (acc * 16 + d) cs

/-- The number that a run of hexadecimal digits stands for. -/
def value? (cs : List Char) : Option Nat := valueFrom? 0 cs

/-- Every run of digits has the requested width. -/
@[simp] theorem length_digits (width n : Nat) : (digits width n).length = width := by
  induction width generalizing n with
  | zero => rfl
  | succ width ih => simp [digits, ih]

end TlsEcho.Text.Hex
