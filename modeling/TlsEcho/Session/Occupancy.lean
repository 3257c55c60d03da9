import TlsEcho.Admission.Counter
import TlsEcho.Connection.Registry
import TlsEcho.Session.Step

/-! # Who is connected

All sessions share the registry of open connections and the counter of live ones.  `Occupancy`
holds both, and `Occupancy.apply` says what an effect of a session does to them and what is
logged meanwhile.

A session that leaves releases its id.  Should the id turn out not to be active, that is reported
and noticed as a fault of the server; the session's slot is given back all the same. -/

namespace TlsEcho

/-- The registry and the live counter. -/
structure Occupancy where
  registry : Registry
  live : Admission.LiveCounter := {}

namespace Occupancy

/-- How many connections are accepted and not closed. -/
def activeCount (o : Occupancy) : Nat := o.registry.size

/-- How many connections are live. -/
def liveCount (o : Occupancy) : Nat := o.live.count

/-- What applying an effect comes to. -/
structure Applied where
  occupancy : Occupancy
  log : List Log.Record := []
  /-- The session left, but its id had been released before. -/
  releasedTwice : Bool := false

/-- Gives back a slot of the live counter, if the connection held one. -/
def giveBack (o : Occupancy) (counted : Bool) : Occupancy × List Log.Record :=
  if counted then ({ o with live := o.live.release }, o.live.releaseLog) else (o, [])

/-- What is said of a session that leaves although its id is not active. -/
def releasedTwiceMessage : String := "connection id released twice"

/-- Releases the id and then the slot of a session that leaves. -/
def leave (o : Occupancy) (id : ConnectionId) (counted : Bool) : Applied :=
  match o.registry.release id with
  | .ok registry =>
    let (after, log) := giveBack { o with registry } counted
    { occupancy := after, log := registry.releaseLog id ++ log }
  | .error e =>
    let (after, log) := o.giveBack counted
    { occupancy := after
      log := ⟨.error, Session.logTarget, releasedTwiceMessage,
        [⟨"id", id.display⟩, ⟨"error", e.message⟩]⟩ :: log
      releasedTwice := true }

/-- What an effect of the session with the given id does. -/
def apply (o : Occupancy) (id : ConnectionId) : Session.Effect → Applied
  | .log record => { occupancy := o, log := [record] }
  | .joined =>
    let live := o.live.acquire
    { occupancy := { o with live }
      log := [⟨.info, Session.logTarget, "handshake successful",
        [⟨"id", id.display⟩, ⟨"live", toString live.count⟩]⟩] }
  | .left counted => o.leave id counted
  | .handshakeBegun | .received _ | .sent _ | .dropped => { occupancy := o }

/-- Applies effects in order. -/
def applyAll (o : Occupancy) (id : ConnectionId) : List Session.Effect → Applied
  | [] => { occupancy := o }
  | e :: rest =>
    let first := o.apply id e
    let later := first.occupancy.applyAll id rest
    { occupancy := later.occupancy
      log := first.log ++ later.log
      releasedTwice := first.releasedTwice || later.releasedTwice }

end Occupancy

end TlsEcho
