import TlsEcho.Address
import TlsEcho.Admission.Controller
import TlsEcho.Admission.Counter
import TlsEcho.Connection.Id
import TlsEcho.Server.Error

/-! # The accept loop

One task of a running server accepts its connections.  Before every accept it asks admission, and
it waits out a cooldown if told so.  While an accept is outstanding it watches the number of live
connections, and asks again when the number has moved.  The id for the next connection is drawn
ahead, by a task of its own, and is kept when an accept is given up.

    starting → checking ──────────────→ choosing → accepting → admitting → checking
                  │  ↑                                 │ ↑
                  ↓  └─ catchingUp ← coolingOver       │ └ the number of live connections moved:
             coolingDown ───────────────────↑          ↓   back to checking
                                                  backingOff → checking

The loop waits in the stages `coolingDown`, `accepting` and `backingOff`, where it also notices
that it is to stop, and in `admitting` for the id. -/

namespace TlsEcho

/-- A connection that a client has made and that has no session yet. -/
structure Incoming where
  /-- The number of the connection. -/
  connection : Nat
  peer : Option Address
  deriving DecidableEq

/-- The id that is drawn ahead. -/
inductive Candidate
  /-- The drawing task has not run yet. -/
  | pending
  | drawn (id : ConnectionId)
  /-- The drawing task failed. -/
  | failed
  deriving DecidableEq, Repr

/-- How an accept loop ended. -/
inductive LoopEnd
  /-- It was told to stop. -/
  | stopped
  | failed (e : LoopFailure)
  deriving DecidableEq, Repr

/-- Where an accept loop stands. -/
inductive LoopStage
  | starting
  | checking
  /-- Waits until the given time, or for ever. -/
  | coolingDown (wakes : Option Instant)
  | coolingOver
  | catchingUp
  | choosing
  | accepting
  /-- A connection has been accepted and waits for its id. -/
  | admitting (c : Incoming)
  /-- Waits until the given time, or for ever, after an accept that failed. -/
  | backingOff (wakes : Option Instant)
  | ended (how : LoopEnd)
  deriving DecidableEq

/-- An accept loop. -/
structure AcceptLoop where
  stage : LoopStage := .starting
  /-- What it has seen of the number of live connections. -/
  watcher : Admission.Watcher := ⟨0⟩
  /-- What it has seen of the requests to stop. -/
  stopWatcher : Admission.Watcher := ⟨0⟩
  candidate : Option Candidate := none
  deriving DecidableEq

namespace AcceptLoop

/-- How long the loop waits after an accept that failed. -/
def backoff : Duration := ⟨100 * nanosPerMilli, by decide⟩

/-- Whether the loop waits where it notices that it is to stop. -/
def isParked (l : AcceptLoop) : Bool :=
  match l.stage with
  | .coolingDown _ | .accepting | .backingOff _ => true
  | _ => false

/-- The loop after it noticed that it is to stop, if it waits and there is a request that it has not
    seen.  So many requests have been made. -/
def stopRequested? (l : AcceptLoop) (requests : Nat) : Option AcceptLoop :=
  if l.isParked && l.stopWatcher.hasMissed requests then some { l with stopWatcher := ⟨requests⟩ }
  else none

/-- How the loop ended, if it has. -/
def ending? (l : AcceptLoop) : Option LoopEnd :=
  match l.stage with
  | .ended how => some how
  | _ => none

/-- The connection that has been accepted and waits for its id, if there is one. -/
def admitted? (l : AcceptLoop) : Option Incoming :=
  match l.stage with
  | .admitting c => some c
  | _ => none

/-- How many steps a loop that is told to stop takes at most until it has ended. -/
def stepsLeft (l : AcceptLoop) : Nat :=
  match l.stage with
  | .ended _ => 0
  | .coolingDown _ | .accepting | .backingOff _ => 1
  | .choosing => 2
  | .checking => 3
  | .starting | .catchingUp => 4
  | .coolingOver => 5
  | .admitting _ => if l.candidate = some .pending then 5 else 4

/-- The loop in another stage. -/
def enter (l : AcceptLoop) (stage : LoopStage) : AcceptLoop := { l with stage }

/-- Whether a wait that is to end at the given time is over. -/
def isOver (wakes : Option Instant) (now : Instant) : Bool :=
  match wakes with
  | some t => t.nanos ≤ now.nanos
  | none => false

/-- The loop after its wait for time to pass, if that is over. -/
def wake? (l : AcceptLoop) (now : Instant) : Option AcceptLoop :=
  match l.stage with
  | .coolingDown wakes => if isOver wakes now then some (l.enter .coolingOver) else none
  | .backingOff wakes => if isOver wakes now then some (l.enter .checking) else none
  | _ => none

/-- The loop after it noticed that the number of live connections moved, if it did. -/
def liveChanged? (l : AcceptLoop) (live : Admission.LiveCounter) : Option AcceptLoop :=
  match l.stage with
  | .accepting =>
    if l.watcher.hasChanged live then
      some { l.enter .checking with watcher := l.watcher.markSeen live }
    else none
  | _ => none

end AcceptLoop

end TlsEcho
