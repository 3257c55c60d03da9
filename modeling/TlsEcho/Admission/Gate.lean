import TlsEcho.Admission.Controller

/-! # Admission in operation

A `Gate` is everything that decides whether the next connection is accepted: the controller, the
counter of live connections, the clock, and the connections that hold a slot of the counter.  Its
requests are the calls that the accept loop, the sessions and observers make, each one an
indivisible step. -/

namespace TlsEcho.Admission

/-- Admission together with the clock and the slots that are held. -/
structure Gate where
  controller : Controller
  counter : LiveCounter := {}
  clock : Instant := .start
  /-- For every slot ever taken, in order, whether it is still held. -/
  slots : List Bool := []
  /-- The watchers of the counter, in the order in which they subscribed. -/
  watchers : List Watcher := []
  deriving DecidableEq

namespace Gate

/-- A new gate with the given limits. -/
def ofLimits (limits : Limits) : Gate := { controller := .ofLimits limits }

/-- How many slots are held. -/
def held (g : Gate) : Nat := g.slots.count true

/-- A call on the gate. -/
inductive Request
  /-- Takes a slot of the counter. -/
  | acquire
  /-- Gives back the slot with this number, if it is still held. -/
  | drop (slot : Nat)
  | check
  | resume
  | phase
  /-- Lets time pass. -/
  | advance (d : Duration)
  | subscribe
  | hasChanged (watcher : Nat)
  /-- Marks the present count as seen. -/
  | markSeen (watcher : Nat)
  | limits
  deriving DecidableEq

/-- The answer to a call. -/
inductive Reply
  | done
  /-- The number of the new slot or watcher. -/
  | index (n : Nat)
  | flag (b : Bool)
  | count (n : Nat)
  | verdict (v : Verdict)
  | overflow (e : ClockOverflow)
  | phase (p : Phase)
  | limits (l : Limits)
  /-- There is no slot or watcher with that number. -/
  | unknown
  deriving DecidableEq

/-- Answers a call. -/
def serve (g : Gate) : Request → Reply × Gate
  | .acquire =>
    (.index g.slots.length, { g with counter := g.counter.acquire, slots := g.slots ++ [true] })
  | .drop slot =>
    match g.slots[slot]? with
    | some true =>
      (.flag true, { g with counter := g.counter.release, slots := g.slots.set slot false })
    | some false => (.flag false, g)
    | none => (.unknown, g)
  | .check =>
    match g.controller.check g.counter.count g.clock with
    | (.ok v, controller) => (.verdict v, { g with controller })
    | (.error e, controller) => (.overflow e, { g with controller })
  | .resume => (.done, { g with controller := g.controller.resume })
  | .phase => (.phase g.controller.phase, g)
  | .advance d =>
    match g.clock.add? d with
    | some clock => (.done, { g with clock })
    | none => (.overflow {}, g)
  | .subscribe =>
    (.index g.watchers.length, { g with watchers := g.watchers ++ [.subscribe g.counter] })
  | .hasChanged watcher =>
    match g.watchers[watcher]? with
    | some w => (.flag (w.hasChanged g.counter), g)
    | none => (.unknown, g)
  | .markSeen watcher =>
    match g.watchers[watcher]? with
    | some w =>
      (.count g.counter.count,
        { g with watchers := g.watchers.set watcher (w.markSeen g.counter) })
    | none => (.unknown, g)
  | .limits => (.limits g.controller.limits, g)

/-- What a call logs. -/
def log (g : Gate) : Request → List Log.Record
  | .check => g.controller.checkLog g.counter.count g.clock
  | .resume => g.controller.resumeLog
  | .drop slot => if g.slots[slot]? = some true then g.counter.releaseLog else []
  | _ => []

end Gate

end TlsEcho.Admission
