/-! # Arithmetic modulo a number -/

namespace TlsEcho.Modular

/-- A power modulo a number, by repeated squaring over the bits of the exponent. -/
def pow (base exponent modulus : Nat) : Nat :=
  if exponent = 0 then 1 % modulus
  else
    let half := pow base (exponent / 2) modulus
    let square := half * half % modulus
    if exponent % 2 = 1 then square * base % modulus else square
termination_by exponent
decreasing_by omega

/-- The inverse modulo a prime. -/
def inverse (x prime : Nat) : Nat := pow x (prime - 2) prime

/-- The difference modulo a number. -/
def sub (x y modulus : Nat) : Nat := (x + (modulus - y % modulus)) % modulus

end TlsEcho.Modular
