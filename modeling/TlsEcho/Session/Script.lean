import TlsEcho.Session.Step

/-! # Sessions on a clock

A `Script` says what a peer and its stream do: for every call on them, how long it takes and what
it comes to.  A `Player` is a session together with the rest of its script and the time at which
its present stage was entered; time counts in whole milliseconds.  `Player.upcoming` says when
the session takes its next step and on which signal, and `Player.advance` takes that step.

When the awaited event and the end of the wait fall on the same millisecond, the event wins.

A list of calls that has run out is continued by calls that succeed at once: a read finds the end
of the stream, a write takes everything. -/

namespace TlsEcho.Session

/-- A call that takes some milliseconds, or for ever, and then comes to a result. -/
structure Timed (α : Type) where
  /-- How long the call takes; it never completes if absent. -/
  after : Option Nat := some 0
  result : Except IoFailure α

/-- What a peer and its stream do. -/
structure Script where
  handshake : Timed Unit := ⟨some 0, .ok ()⟩
  /-- What arrives.  A read takes no more than fits; the rest is there at once for the next. -/
  reads : List (Timed Bytes) := []
  /-- How many bytes each write takes at most; all that are left if absent. -/
  writes : List (Timed (Option Nat)) := []
  flushes : List (Timed Unit) := []
  shutdowns : List (Timed Unit) := []

namespace Script

/-- The result of the next read, when it is there, and the script after it. -/
def nextRead (s : Script) : Timed Bytes × Script :=
  match s.reads with
  | [] => (⟨some 0, .ok []⟩, s)
  | ⟨after, .error e⟩ :: rest => (⟨after, .error e⟩, { s with reads := rest })
  | ⟨after, .ok data⟩ :: rest =>
    if data.length ≤ readSize then (⟨after, .ok data⟩, { s with reads := rest })
    else
      (⟨after, .ok (data.take readSize)⟩,
        { s with reads := ⟨some 0, .ok (data.drop readSize)⟩ :: rest })

/-- How many of `remaining` bytes the next write takes, and the script after it. -/
def nextWrite (s : Script) (remaining : Nat) : Timed Nat × Script :=
  match s.writes with
  | [] => (⟨some 0, .ok remaining⟩, s)
  | ⟨after, result⟩ :: rest =>
    (⟨after, result.map fun most => min (most.getD remaining) remaining⟩, { s with writes := rest })

/-- The next flush and the script after it. -/
def nextFlush (s : Script) : Timed Unit × Script :=
  match s.flushes with
  | [] => (⟨some 0, .ok ()⟩, s)
  | f :: rest => (f, { s with flushes := rest })

/-- The next shutdown and the script after it. -/
def nextShutdown (s : Script) : Timed Unit × Script :=
  match s.shutdowns with
  | [] => (⟨some 0, .ok ()⟩, s)
  | c :: rest => (c, { s with shutdowns := rest })

end Script

/-- A session, the rest of its script, and when it entered its present stage. -/
structure Player where
  session : Session
  script : Script
  since : Nat

namespace Player

/-- When a wait that began at `since` ends and how: by the event, or by the limit if the event
    takes longer. -/
def resolve (since : Nat) (limit : Option Nat) (after : Option Nat) (signal : Signal) :
    Option (Nat × Signal) :=
  match after, limit with
  | some a, some l => if a ≤ l then some (since + a, signal) else some (since + l, .timeout)
  | some a, none => some (since + a, signal)
  | none, some l => some (since + l, .timeout)
  | none, none => none

/-- When the session takes its next step, on which signal, and the script afterwards.  There is
    none when the session is over or waits for ever. -/
def upcoming (ctx : Context) (p : Player) : Option (Nat × Signal × Script) :=
  let wait {α : Type} (call : Timed α × Script) (signal : Except IoFailure α → Signal) :=
    (resolve p.since (p.session.waitLimit? ctx) call.1.after (signal call.1.result)).map
      fun
        | (time, .timeout) => (time, .timeout, p.script)
        | (time, signal) => (time, signal, call.2)
  match p.session.stage with
  | .awaitingHandshake => wait (p.script.handshake, p.script) .handshake
  | .awaitingRead => wait p.script.nextRead .read
  | .awaitingWrite bytes written _ => wait (p.script.nextWrite (bytes.length - written)) .write
  | .awaitingFlush .. => wait p.script.nextFlush .flush
  | .awaitingShutdown _ => wait p.script.nextShutdown .shutdown
  | .ended _ => none
  | _ => some (p.since, .go, p.script)

/-- A step of a player: when it happened, on which signal, and what it did. -/
structure Move where
  time : Nat
  signal : Signal
  effects : List Effect
  after : Player

/-- The next step of the session. -/
def advance (ctx : Context) (p : Player) : Option Move :=
  match p.upcoming ctx with
  | none => none
  | some (time, signal, script) =>
    (p.session.step ctx signal).map fun (session, effects) =>
      { time, signal, effects, after := { session, script, since := time } }

/-- Gives the session up at the given time. -/
def abandon (ctx : Context) (p : Player) (time : Nat) : Option Move :=
  (p.session.step ctx .abandon).map fun (session, effects) =>
    { time, signal := .abandon, effects, after := { p with session, since := time } }

end Player

end TlsEcho.Session
