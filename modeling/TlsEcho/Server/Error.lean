import TlsEcho.Address
import TlsEcho.Admission.Controller
import TlsEcho.Transport.Error

/-! # Failures of a server

What keeps a server from starting or ends it early.  Failures of single connections never show up
here. -/

namespace TlsEcho

/-- Why the accept loop ended although nobody asked it to. -/
inductive LoopFailure
  /-- The task that draws the next id failed. -/
  | candidate
  /-- The end of a cooldown lies beyond the last reading of the clock. -/
  | overflow (e : Admission.ClockOverflow)
  /-- The collisions of an id could not be counted any more. -/
  | collisions
  deriving DecidableEq, Repr

/-- The text of a failure of the accept loop. -/
def LoopFailure.message : LoopFailure → String
  | .candidate => "task failed"
  | .overflow e => "task panicked with message \"" ++ e.message ++ "\""
  | .collisions => "task panicked with message \"attempt to add with overflow\""

/-- A failure of a server. -/
inductive ServerError
  | transport (e : TransportError)
  | bind (address : Address) (reason : String)
  | workers (reason : String)
  | notRunning
  | acceptLoop (e : LoopFailure)
  deriving DecidableEq

namespace ServerError

/-- The text of a failure. -/
def message : ServerError → String
  | transport e => e.message
  | bind address reason => "failed to bind " ++ address.render ++ ": " ++ reason
  | workers reason => "failed to start worker pool: " ++ reason
  | notRunning => "not running"
  | acceptLoop e => "accept loop task failed: " ++ e.message

/-- The text of the failure behind a failure.  One of the transport stands for itself. -/
def cause : ServerError → Option String
  | transport e => e.cause
  | bind _ reason | workers reason => some reason
  | notRunning => none
  | acceptLoop e => some e.message

end ServerError

end TlsEcho
