import TlsEcho.Address
import TlsEcho.Connection.Id
import TlsEcho.Echo.Policy
import TlsEcho.Log
import TlsEcho.Time.Duration

/-! # Sessions

A session is one accepted connection from accept to close.  It goes through these stages:

    accepted → handshaking ─ok→ reading ⇄ processing → writing
                    │              │          │           │
                    └── failed ────┴──────────┴───────────┴──→ closing → ended

A stage in which the session waits for something from outside is called *awaiting*; all others
are left at once.  What a wait comes to is a `Signal`.  What a step does beyond the session itself
is a list of `Effect`s, so that a session can be followed without the connections beside it. -/

namespace TlsEcho

/-! ## Failures of a stream -/

/-- The kinds of failure that a session tells apart. -/
inductive FailureKind
  | unexpectedEof
  | permissionDenied
  | other (name : String)
  deriving DecidableEq, Repr

/-- A failed call on a socket or stream: its kind and its text. -/
structure IoFailure where
  kind : FailureKind
  text : String
  deriving DecidableEq, Repr

/-- Whether a failed read counts as the end of the stream.  A peer that leaves without saying so
    shows up as an unexpected end. -/
def IoFailure.isEndOfStream (e : IoFailure) : Bool :=
  match e.kind with
  | .unexpectedEof | .permissionDenied => true
  | .other _ => false

/-- The failure of a write that the stream takes nothing of. -/
def IoFailure.writeZero : IoFailure := ⟨.other "WriteZero", "write zero"⟩

/-! ## Sessions -/

namespace Session

/-- How a session ended. -/
inductive Outcome
  /-- The protocol finished, or the peer ended the stream. -/
  | completed
  /-- The handshake failed; the connection was never counted as live. -/
  | handshakeFailed
  | readFailed
  | writeFailed
  /-- The echo policy refused the input. -/
  | policyFailed
  /-- The peer sent nothing, or did not finish its handshake, within the idle timeout. -/
  | idleTimeout
  deriving DecidableEq, Repr

/-- The name of an outcome in log records. -/
def Outcome.name : Outcome → String
  | .completed => "Completed"
  | .handshakeFailed => "HandshakeFailed"
  | .readFailed => "ReadFailed"
  | .writeFailed => "WriteFailed"
  | .policyFailed => "PolicyFailed"
  | .idleTimeout => "IdleTimeout"

/-- What all sessions of one server share. -/
structure Context where
  policy : Echo.PolicyKind := .immediate
  accumulateLimit : Option Nat := none
  /-- How long a handshake or a read may take; for ever if absent. -/
  idleTimeout : Option Duration := none
  deriving DecidableEq

/-- How a session came to its end: by itself, or because its task was given up. -/
inductive Ending
  | finished (outcome : Outcome)
  | abandoned
  deriving DecidableEq, Repr

/-- The stages of a session. -/
inductive Stage
  | accepted
  | handshaking
  | awaitingHandshake
  | reading
  | awaitingRead
  /-- The first `length` bytes of the buffer are new; `eof` says that the peer ended its side. -/
  | processing (length : Nat) (eof : Bool)
  /-- The bytes are to be written; afterwards the session closes if `atEnd`. -/
  | writing (bytes : Bytes) (atEnd : Bool)
  /-- The first `written` of the bytes have been taken by the stream. -/
  | awaitingWrite (bytes : Bytes) (written : Nat) (atEnd : Bool)
  | awaitingFlush (bytes : Bytes) (atEnd : Bool)
  | closing (outcome : Outcome)
  | awaitingShutdown (outcome : Outcome)
  | ended (ending : Ending)
  deriving DecidableEq, Repr

/-- The most bytes that one read asks for. -/
def readSize : Nat := 16384

/-- The milliseconds that the shutdown of the stream may take. -/
def shutdownGrace : Nat := 1000

end Session

/-- One accepted connection. -/
structure Session where
  id : ConnectionId
  peer : Option Address := none
  stage : Session.Stage := .accepted
  /-- Whether the session holds the socket as it was accepted. -/
  hasSocket : Bool := true
  /-- Whether the session holds the secured stream. -/
  hasStream : Bool := false
  /-- Whether the session holds a slot of the live counter. -/
  counted : Bool := false
  policy : Echo.Policy
  /-- The read buffer.  Beyond the bytes read last it holds those of earlier reads. -/
  buffer : Bytes := List.replicate Session.readSize 0
  deriving DecidableEq

namespace Session

/-- A session for a socket just accepted. -/
def start (ctx : Context) (id : ConnectionId) (peer : Option Address) : Session :=
  { id, peer, policy := ctx.policy.build ctx.accumulateLimit }

/-- Whether the session is over. -/
def isOver (s : Session) : Bool :=
  match s.stage with
  | .ended _ => true
  | _ => false

/-- The outcome that the session has come to, once it is on its way out by itself. -/
def outcome? (s : Session) : Option Outcome :=
  match s.stage with
  | .closing outcome | .awaitingShutdown outcome | .ended (.finished outcome) => some outcome
  | _ => none

/-- Whether the session is on its way out or over. -/
def isLeaving (s : Session) : Bool :=
  match s.stage with
  | .closing _ | .awaitingShutdown _ | .ended _ => true
  | _ => false

/-- Whether the session waits for something from outside. -/
def isWaiting (s : Session) : Bool :=
  match s.stage with
  | .awaitingHandshake | .awaitingRead | .awaitingWrite .. | .awaitingFlush ..
  | .awaitingShutdown _ => true
  | _ => false

/-- The milliseconds that the present wait may take, if it is limited.  Only the handshake, each
    read and the shutdown of the stream are. -/
def waitLimit? (ctx : Context) (s : Session) : Option Nat :=
  match s.stage with
  | .awaitingHandshake | .awaitingRead => ctx.idleTimeout.map Duration.ceilMillis
  | .awaitingShutdown _ => some shutdownGrace
  | _ => none

/-- What makes a session take a step. -/
inductive Signal
  /-- Nothing from outside: the session goes on to its next wait. -/
  | go
  | handshake (result : Except IoFailure Unit)
  /-- The bytes read; none of them means that the peer ended its side. -/
  | read (result : Except IoFailure Bytes)
  /-- How many bytes the stream took. -/
  | write (result : Except IoFailure Nat)
  | flush (result : Except IoFailure Unit)
  | shutdown (result : Except IoFailure Unit)
  /-- The present wait took too long. -/
  | timeout
  /-- The session's task is given up. -/
  | abandon

/-- What a step does beyond the session itself, in order. -/
inductive Effect
  | log (record : Log.Record)
  /-- The handshake call is made. -/
  | handshakeBegun
  /-- A slot of the live counter is taken, and the count is reported. -/
  | joined
  /-- Bytes came from the peer. -/
  | received (bytes : Bytes)
  /-- Bytes were taken by the stream on their way to the peer. -/
  | sent (bytes : Bytes)
  /-- The socket or stream is closed. -/
  | dropped
  /-- The id is released and, if the connection was counted, its slot is given back. -/
  | left (counted : Bool)
  deriving DecidableEq

end Session

end TlsEcho
