import TlsEcho.Number.Binary64
import TlsEcho.Time.Duration

/-! # Durations given in seconds

A number of seconds becomes the duration of the nearest whole number of nanoseconds, a tie going
to the even one.  Negative numbers and those of 2^64 and more have no duration; zero has one
whatever its sign. -/

namespace TlsEcho

/-- Why a number of seconds has no duration. -/
inductive SecondsError
  | negative
  /-- Too big, or no number at all. -/
  | unbounded
  deriving DecidableEq, Repr

/-- The text of the error. -/
def SecondsError.message : SecondsError → String
  | .negative => "cannot convert float seconds to Duration: value is negative"
  | .unbounded => "cannot convert float seconds to Duration: value is either too big or NaN"

/-- The nanoseconds nearest to `mantissa * 2 ^ exponent` seconds. -/
def nearestNanos (mantissa : Nat) (exponent : Int) : Nat :=
  if 0 ≤ exponent then mantissa * Nat.pow 2 exponent.toNat * nanosPerSecond
  else Binary64.roundDiv (mantissa * nanosPerSecond) (Nat.pow 2 (-exponent).toNat)

/-- The duration of so many seconds. -/
def Duration.ofBinary64 : Binary64 → Except SecondsError Duration
  | .nan => .error .unbounded
  | .infinite negative => .error (if negative then .negative else .unbounded)
  | .finite negative mantissa exponent =>
    if mantissa = 0 then .ok .zero
    else if negative then .error .negative
    else
      match Duration.ofNanos? (nearestNanos mantissa exponent) with
      | some d => .ok d
      | none => .error .unbounded

end TlsEcho
