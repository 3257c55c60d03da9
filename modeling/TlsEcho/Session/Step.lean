import TlsEcho.Session.Basic
import TlsEcho.Text.Utf8
import TlsEcho.Transport.Error

/-! # The steps of a session

`Session.step` says what a session does on a signal: the session afterwards and the effects, or
nothing if the signal does not fit the stage.  The stages that wait for nothing are left by the
signal `go`.

* A failed read counts as the end of the stream if the failure says so, and fails the session
  otherwise.
* A reply is written until the stream has taken all of it, and then flushed.
* Closing shuts the stream down, within a grace period, and drops it before the id is released. -/

namespace TlsEcho.Session

/-- The part of the server that a session's records name. -/
def logTarget : String := "moat::session"

/-- The part of the server that records of transferred bytes name. -/
def wireTarget : String := "moat::wire"

/-- A record about this session: its id comes before the other fields. -/
def note (s : Session) (level : Log.Level) (message : String) (fields : List Log.Field) : Effect :=
  .log ⟨level, logTarget, message, ⟨"id", s.id.display⟩ :: fields⟩

/-- A record about transferred bytes, shown as text. -/
def wireNote (s : Session) (message : String) (fields : List Log.Field) (data : Bytes) : Effect :=
  .log ⟨.trace, wireTarget, message, ⟨"id", s.id.display⟩ ::
    fields ++ [⟨"data", String.ofList (Text.Utf8.decodeLossy data)⟩]⟩

/-- A session in another stage. -/
def enter (s : Session) (stage : Stage) : Session := { s with stage }

/-- A session on its way out. -/
def close (s : Session) (outcome : Outcome) : Session := s.enter (.closing outcome)

/-- A peer as records show it. -/
def peerText : Option Address → String
  | some address => "Some(" ++ address.render ++ ")"
  | none => "None"

/-- The record that a session leaves when it begins. -/
def greeting (s : Session) : Effect :=
  s.note .debug "new client attempting to connect, handshake pending"
    [⟨"peer", peerText s.peer⟩, ⟨"policy", "\"" ++ s.policy.kind.name ++ "\""⟩]

/-- Puts a chunk to the policy and acts on its reply. -/
def process (s : Session) (length : Nat) (eof : Bool) : Session × List Effect :=
  let chunk := s.buffer.take length
  let received := s.wireNote "received" [⟨"eof", toString eof⟩] chunk
  let (answer, policy) := s.policy.process chunk eof
  let s := { s with policy }
  match answer with
  | .ok reply =>
    if reply.bytes ≠ [] then (s.enter (.writing reply.bytes reply.atEnd), [received])
    else if reply.atEnd then (s.close .completed, [received])
    else (s.enter .reading, [received])
  | .error e =>
    (s.close .policyFailed, [received, s.note .warn "message rejected" [⟨"error", e.message⟩]])

/-- The last step of a session: the record, then the id and the slot. -/
def leave (s : Session) (outcome : Outcome) : Session × List Effect :=
  ({ s.enter (.ended (.finished outcome)) with hasSocket := false, counted := false },
    [s.note .info "connection closed" [⟨"outcome", outcome.name⟩], .left s.counted])

/-- Leaves a stage that waits for nothing. -/
def proceed (s : Session) : Option (Session × List Effect) :=
  match s.stage with
  | .accepted => some (s.enter .handshaking, [s.greeting])
  | .handshaking =>
    if s.hasSocket then
      some ({ s.enter .awaitingHandshake with hasSocket := false },
        [s.note .debug "handshake attempt" [], .handshakeBegun])
    else some (s.close .handshakeFailed, [])
  | .reading =>
    if s.hasStream then some (s.enter .awaitingRead, []) else some (s.close .readFailed, [])
  | .processing length eof => some (s.process length eof)
  | .writing bytes atEnd =>
    if s.hasStream then
      if bytes = [] then some (s.enter (.awaitingFlush bytes atEnd), [])
      else some (s.enter (.awaitingWrite bytes 0 atEnd), [])
    else some (s.close .writeFailed, [])
  | .closing outcome =>
    if s.hasStream then
      some ({ s.enter (.awaitingShutdown outcome) with hasStream := false }, [])
    else some (s.leave outcome)
  | _ => none

/-- What a handshake comes to. -/
def handshakeDone (s : Session) : Except IoFailure Unit → Session × List Effect
  | .ok () => ({ s.enter .reading with hasStream := true, counted := true }, [.joined])
  | .error e =>
    (s.close .handshakeFailed,
      [.dropped,
       s.note .warn "handshake failed" [⟨"error", (TransportError.handshake e.text).message⟩]])

/-- What a read comes to. -/
def readDone (s : Session) : Except IoFailure Bytes → Session × List Effect
  | .ok data =>
    if data = [] then (s.enter (.processing 0 true), [])
    else
      ({ s.enter (.processing data.length false) with
          buffer := data ++ s.buffer.drop data.length },
        [.received data, s.note .debug "message received" [⟨"bytes", toString data.length⟩]])
  | .error e =>
    if e.isEndOfStream then
      (s.enter (.processing 0 true),
        [s.note .debug "peer ended the stream" [⟨"error", e.text⟩]])
    else (s.close .readFailed, [s.note .warn "read failed" [⟨"error", e.text⟩]])

/-- A reply that could not be written. -/
def writeFailure (s : Session) (e : IoFailure) : Session × List Effect :=
  (s.close .writeFailed, [s.note .warn "write failed" [⟨"error", e.text⟩]])

/-- What one write of the remaining bytes comes to. -/
def writeDone (s : Session) (bytes : Bytes) (written : Nat) (atEnd : Bool) :
    Except IoFailure Nat → Session × List Effect
  | .ok 0 => s.writeFailure .writeZero
  | .ok n =>
    let taken := (bytes.drop written).take n
    let written := written + n
    if written < bytes.length then (s.enter (.awaitingWrite bytes written atEnd), [.sent taken])
    else (s.enter (.awaitingFlush bytes atEnd), [.sent taken])
  | .error e => s.writeFailure e

/-- What a flush comes to. -/
def flushDone (s : Session) (bytes : Bytes) (atEnd : Bool) :
    Except IoFailure Unit → Session × List Effect
  | .ok () =>
    (if atEnd then s.close .completed else s.enter .reading,
      [s.note .debug "bytes sent to client" [⟨"bytes", toString bytes.length⟩],
       s.wireNote "sent" [] bytes])
  | .error e => s.writeFailure e

/-- The end of the stream's shutdown, whatever it came to: the stream is dropped first. -/
def shutdownDone (s : Session) (outcome : Outcome) (report : List Effect) :
    Session × List Effect :=
  let (s, farewell) := s.leave outcome
  (s, report ++ [.dropped] ++ farewell)

/-- The end of a wait that took too long. -/
def timedOut (ctx : Context) (s : Session) : Option (Session × List Effect) :=
  match s.stage with
  | .awaitingHandshake => ctx.idleTimeout.map fun limit =>
    (s.close .idleTimeout,
      [.dropped, s.note .info "handshake stalled, closing"
        [⟨"timeout_ms", toString limit.shownMillis⟩]])
  | .awaitingRead => ctx.idleTimeout.map fun limit =>
    (s.close .idleTimeout,
      [s.note .info "connection idle, closing" [⟨"timeout_ms", toString limit.shownMillis⟩]])
  | .awaitingShutdown outcome =>
    some (s.shutdownDone outcome [s.note .debug "shutdown timed out" []])
  | _ => none

/-- Giving the session up.  What a wait holds by itself goes first: the socket during the
    handshake, the stream during its shutdown.  Otherwise the id and the slot go first. -/
def abandoned (s : Session) : Option (Session × List Effect) :=
  let gone : Session :=
    { s.enter (.ended .abandoned) with hasSocket := false, hasStream := false, counted := false }
  match s.stage with
  | .ended _ => none
  | .awaitingHandshake | .awaitingShutdown _ => some (gone, [.dropped, .left s.counted])
  | _ => some (gone, [.left s.counted] ++ if s.hasSocket || s.hasStream then [.dropped] else [])

/-- What a session does on a signal. -/
def step (ctx : Context) (s : Session) (signal : Signal) : Option (Session × List Effect) :=
  match signal, s.stage with
  | .go, _ => s.proceed
  | .timeout, _ => s.timedOut ctx
  | .abandon, _ => s.abandoned
  | .handshake result, .awaitingHandshake => some (s.handshakeDone result)
  | .read (.ok data), .awaitingRead =>
    if data.length ≤ readSize then some (s.readDone (.ok data)) else none
  | .read (.error e), .awaitingRead => some (s.readDone (.error e))
  | .write (.ok n), .awaitingWrite bytes written atEnd =>
    if n ≤ bytes.length - written then some (s.writeDone bytes written atEnd (.ok n)) else none
  | .write (.error e), .awaitingWrite bytes written atEnd =>
    some (s.writeDone bytes written atEnd (.error e))
  | .flush result, .awaitingFlush bytes atEnd => some (s.flushDone bytes atEnd result)
  | .shutdown result, .awaitingShutdown outcome =>
    some (s.shutdownDone outcome (match result with
      | .ok () => []
      | .error e => [s.note .debug "shutdown failed" [⟨"error", e.text⟩]]))
  | _, _ => none

/-- A session after a sequence of signals and what it did, if the signals fit its stages. -/
def run (ctx : Context) (s : Session) : List Signal → Option (Session × List Effect)
  | [] => some (s, [])
  | signal :: rest =>
    match s.step ctx signal with
    | none => none
    | some (s, effects) => (s.run ctx rest).map fun (s, more) => (s, effects ++ more)

end TlsEcho.Session
