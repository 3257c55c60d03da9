/-! # Durations

A duration is a number of nanoseconds below 2^64 seconds.  It is shown as whole seconds and the
nanoseconds beyond them. -/

namespace TlsEcho

/-- The nanoseconds of one second. -/
def nanosPerSecond : Nat := 1000000000

/-- The nanoseconds of one millisecond. -/
def nanosPerMilli : Nat := 1000000

/-- A span of time. -/
structure Duration where
  nanos : Nat
  nanos_lt : nanos < UInt64.size * nanosPerSecond
  deriving DecidableEq

namespace Duration

/-- No time at all. -/
def zero : Duration := ⟨0, by decide⟩

instance : Inhabited Duration := ⟨zero⟩

/-- The duration of so many nanoseconds, if there is one. -/
def ofNanos? (n : Nat) : Option Duration :=
  if h : n < UInt64.size * nanosPerSecond then some ⟨n, h⟩ else none

/-- The duration of so many seconds and nanoseconds, if there is one. -/
def ofParts? (seconds nanos : Nat) : Option Duration :=
  ofNanos? (seconds * nanosPerSecond + nanos)

/-- The duration of so many seconds; at most the longest one. -/
def ofSeconds (s : UInt64) : Duration :=
  ⟨s.toNat * nanosPerSecond, by
    have := s.toNat_lt
    exact Nat.mul_lt_mul_of_pos_right this (by decide)⟩

/-- The whole seconds. -/
def seconds (d : Duration) : Nat := d.nanos / nanosPerSecond

/-- The nanoseconds beyond the whole seconds. -/
def subsecNanos (d : Duration) : Nat := d.nanos % nanosPerSecond

/-- The whole milliseconds. -/
def millis (d : Duration) : Nat := d.nanos / nanosPerMilli

/-- The whole milliseconds as log records show them, in 64 bits. -/
def shownMillis (d : Duration) : Nat := d.millis % UInt64.size

/-- The duration in milliseconds, a started millisecond counting in full. -/
def ceilMillis (d : Duration) : Nat := (d.nanos + (nanosPerMilli - 1)) / nanosPerMilli

end Duration

/-! ## Clock readings -/

/-- The seconds that a clock can show: those of a signed 64-bit number. -/
def clockSeconds : Nat := 9223372036854775808

/-- A reading of the clock, in nanoseconds since the clock started. -/
structure Instant where
  nanos : Nat
  nanos_lt : nanos < clockSeconds * nanosPerSecond
  deriving DecidableEq

namespace Instant

/-- The reading of a clock that has just started. -/
def start : Instant := ⟨0, by decide⟩

instance : Inhabited Instant := ⟨start⟩

/-- The reading a duration later, if the clock can show it. -/
def add? (t : Instant) (d : Duration) : Option Instant :=
  if h : t.nanos + d.nanos < clockSeconds * nanosPerSecond then some ⟨t.nanos + d.nanos, h⟩
  else none

/-- A later reading of the clock shows how much time has passed. -/
theorem nanos_of_add? {t t' : Instant} {d : Duration} (h : t.add? d = some t') :
    t'.nanos = t.nanos + d.nanos := by
  unfold add? at h
  split at h
  · obtain rfl := Option.some.inj h
    rfl
  · exact nomatch h

/-- The time from `earlier` to `t`; none at all if `t` is not later. -/
def since (t earlier : Instant) : Duration :=
  ⟨t.nanos - earlier.nanos, by
    have := t.nanos_lt
    have : clockSeconds * nanosPerSecond ≤ UInt64.size * nanosPerSecond := by decide
    omega⟩

end Instant

end TlsEcho
