import TlsEcho.Admission.Counter
import TlsEcho.Time.Duration

/-! # Admission

Before each accept the server asks whether it may take another connection.  While listening the
answer is yes as long as fewer than the most allowed connections are live; reaching that ceiling
starts a cooldown of fixed length.  During the cooldown the answer is the time that is left,
whatever the number of live connections does.  Only `resume` ends it.

The end of the cooldown is a clock reading, and the clock has a last reading.  A check that would
have to enter a cooldown ending beyond it overflows: it gives no verdict and changes nothing. -/

namespace TlsEcho.Admission

/-- The limits that admission enforces. -/
structure Limits where
  /-- The number of live connections at which accepting stops. -/
  maxConnections : Nat := 1024
  /-- How long it stays stopped. -/
  cooldown : Duration := .ofSeconds 5
  deriving DecidableEq

namespace Limits

/-- A ceiling of zero would never accept and counts as one. -/
def validated (l : Limits) : Limits := { l with maxConnections := max l.maxConnections 1 }

/-- What `validated` reports: that it raised a ceiling of zero. -/
def validationLog (l : Limits) : List Log.Record :=
  if l.maxConnections = 0 then
    [⟨.warn, "moat_admission::controller", "max_connections of 0 requested, using 1", []⟩]
  else []

end Limits

/-- Whether connections are being accepted. -/
inductive Phase
  | listening
  /-- Not accepting; the cooldown ends at the given reading of the clock. -/
  | coolingDown (ends : Instant)
  deriving DecidableEq, Inhabited

/-- The verdict of a check. -/
inductive Verdict
  | accept
  /-- Wait this long first. -/
  | coolDown (wait : Duration)
  deriving DecidableEq, Inhabited

/-- The end of a cooldown lies beyond the last reading of the clock. -/
structure ClockOverflow where
  deriving DecidableEq, Repr

/-- The text of the failure. -/
def ClockOverflow.message (_ : ClockOverflow) : String :=
  "overflow when adding duration to instant"

/-- Admission with its limits, which are valid ones, and its phase. -/
structure Controller where
  limits : Limits
  phase : Phase := .listening
  deriving DecidableEq

namespace Controller

/-- Admission under the given limits, listening. -/
def ofLimits (limits : Limits) : Controller := { limits := limits.validated }

/-- Whether connections are being accepted. -/
def isListening (c : Controller) : Bool := c.phase = .listening

/-- Asks at time `now`, with `live` connections, whether the next one may be accepted. -/
def check (c : Controller) (live : Nat) (now : Instant) :
    Except ClockOverflow Verdict × Controller :=
  match c.phase with
  | .coolingDown ends => (.ok (.coolDown (ends.since now)), c)
  | .listening =>
    if live < c.limits.maxConnections then (.ok .accept, c)
    else
      match now.add? c.limits.cooldown with
      | none => (.error {}, c)
      | some ends => (.ok (.coolDown c.limits.cooldown), { c with phase := .coolingDown ends })

/-- Ends a cooldown. -/
def resume (c : Controller) : Controller := { c with phase := .listening }

/-! ## Log records -/

/-- The part of the server that admission's records name. -/
def logTarget : String := "moat_admission::controller"

/-- What a check reports: that it entered a cooldown. -/
def checkLog (c : Controller) (live : Nat) (now : Instant) : List Log.Record :=
  if c.isListening && !(c.check live now).2.isListening then
    [⟨.warn, logTarget, "max connections reached, entering cooldown",
      [⟨"live", toString live⟩, ⟨"max_connections", toString c.limits.maxConnections⟩,
       ⟨"cooldown_ms", toString c.limits.cooldown.shownMillis⟩]⟩]
  else []

/-- What `resume` reports: that it ended a cooldown. -/
def resumeLog (c : Controller) : List Log.Record :=
  if c.isListening then [] else [⟨.info, logTarget, "cooldown over, listening again", []⟩]

end Controller

end TlsEcho.Admission
