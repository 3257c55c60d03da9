import TlsEcho.Bytes

/-! # Echo policies

A policy decides what is written back for the bytes that were read.  Each connection owns one,
feeds it every chunk it reads, and tells it when the peer has ended its side.

* the immediate policy writes every chunk straight back,
* the accumulating policy keeps all chunks until the peer ends its side and writes the whole
  message back at once; a limit caps the message, and a chunk that would pass the limit is
  refused and leaves what was kept as it was. -/

namespace TlsEcho.Echo

/-- What to do about one chunk. -/
structure Reply where
  /-- The bytes to write to the peer, possibly none. -/
  bytes : Bytes := []
  /-- Whether the connection closes after writing them. -/
  atEnd : Bool := false
  deriving DecidableEq, Repr

/-- Nothing to write; keep reading. -/
def Reply.pending : Reply := {}

/-- Why a policy refuses a chunk. -/
inductive PolicyError
  /-- The message would grow past the configured limit. -/
  | bufferLimit (limit : Nat)
  deriving DecidableEq, Repr

/-- The text of a policy error. -/
def PolicyError.message : PolicyError → String
  | .bufferLimit limit => "accumulated message exceeds " ++ toString limit ++ " bytes"

/-! ## Accumulating -/

/-- The state of the accumulating policy: the bytes kept so far. -/
structure Accumulator where
  buffer : Bytes := []
  /-- The most bytes that a message may have; unbounded if absent. -/
  limit : Option Nat := none
  deriving DecidableEq, Repr

namespace Accumulator

/-- The limit that `extra` more bytes would pass, if there is one. -/
def passedLimit? (a : Accumulator) (extra : Nat) : Option Nat :=
  a.limit.filter fun limit => a.buffer.length + extra > limit

/-- Takes one chunk; `eof` says that the peer has ended its side. -/
def process (a : Accumulator) (chunk : Bytes) (eof : Bool) :
    Except PolicyError Reply × Accumulator :=
  match a.passedLimit? chunk.length with
  | some limit => (.error (.bufferLimit limit), a)
  | none =>
    let kept := a.buffer ++ chunk
    if eof then (.ok ⟨kept, true⟩, { a with buffer := [] })
    else (.ok .pending, { a with buffer := kept })

end Accumulator

/-! ## Policies -/

/-- The policies by name, as configurations choose them. -/
inductive PolicyKind
  | immediate | accumulate
  deriving DecidableEq, Repr, Inhabited

/-- The name of a policy in configurations and log records. -/
def PolicyKind.name : PolicyKind → String
  | .immediate => "immediate"
  | .accumulate => "accumulate"

/-- The label of a policy in the record that a server leaves when it starts. -/
def PolicyKind.label : PolicyKind → String
  | .immediate => "Immediate"
  | .accumulate => "Accumulate"

/-- All policies, in the order in which messages list them. -/
def PolicyKind.all : List PolicyKind := [.immediate, .accumulate]

/-- The policy with a given name. -/
def PolicyKind.ofName? (name : String) : Option PolicyKind :=
  PolicyKind.all.find? fun k => k.name == name

/-- A policy with the state that it keeps for one connection. -/
inductive Policy
  | immediate
  | accumulate (a : Accumulator)
  deriving DecidableEq, Repr

/-- A fresh policy for one connection.  The limit matters to the accumulating policy only. -/
def PolicyKind.build (kind : PolicyKind) (limit : Option Nat) : Policy :=
  match kind with
  | .immediate => .immediate
  | .accumulate => .accumulate { limit }

namespace Policy

/-- Which policy this is. -/
def kind : Policy → PolicyKind
  | .immediate => .immediate
  | .accumulate _ => .accumulate

/-- The bytes that the policy has kept. -/
def kept : Policy → Bytes
  | .immediate => []
  | .accumulate a => a.buffer

/-- How many bytes the policy has kept. -/
def buffered : Policy → Nat
  | .immediate => 0
  | .accumulate a => a.buffer.length

/-- Takes one chunk; `eof` says that the peer has ended its side. -/
def process (p : Policy) (chunk : Bytes) (eof : Bool) : Except PolicyError Reply × Policy :=
  match p with
  | .immediate => (.ok ⟨chunk, eof⟩, .immediate)
  | .accumulate a =>
    let (answer, a) := a.process chunk eof
    (answer, .accumulate a)

end Policy

end TlsEcho.Echo
