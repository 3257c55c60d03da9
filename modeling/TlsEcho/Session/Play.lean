import TlsEcho.Session.Agenda
import TlsEcho.Session.Occupancy
import TlsEcho.Session.Script

/-! # Sessions side by side

Several sessions that share one registry and one live counter, played on one clock.  Each session
has its `Part`: when its socket is accepted, the id that is tried for it, its script, and when its
task is given up.

A part is played by two tasks.  The *supervisor* accepts the socket and begins the session, waits
for its end or gives it up, and then writes down how things stand.  The *session* takes its steps
until it has to wait.  All tasks share one `Agenda`, so a supervisor learns of the end of its
session only after the tasks that were ready before it. -/

namespace TlsEcho.Session

/-- What is to happen to one connection. -/
structure Part where
  /-- When the socket is accepted. -/
  start : Nat := 0
  /-- The id that is tried for it. -/
  candidate : ConnectionId
  peer : Option Address := none
  script : Script := {}
  /-- How long after the start the session's task is given up. -/
  patience : Nat := 3600000

/-- Something seen from outside a session. -/
inductive Sight
  | handshake
  /-- A read ended, with so many bytes. -/
  | read (result : Except IoFailure Nat)
  /-- A write ended, and these bytes were taken. -/
  | write (result : Except IoFailure Bytes)
  | flush (result : Except IoFailure Unit)
  | shutdown (result : Except IoFailure Unit)
  | dropped

/-- What was seen when, and who was connected at that moment. -/
structure Observation where
  time : Nat
  sight : Sight
  live : Nat
  active : Nat

/-- How a session's task ended. -/
inductive TaskEnd
  | ended (ending : Ending)
  /-- The session found its id released before it left. -/
  | releasedTwice
  deriving DecidableEq, Repr

/-- The end of a session, and what was true right then. -/
structure Finish where
  task : TaskEnd
  time : Nat
  stillActive : Bool
  live : Nat
  active : Nat

/-- A part being played. -/
structure Seat where
  part : Part
  /-- The session, once its socket is accepted. -/
  player : Option Player := none
  observations : List Observation := []
  isGivenUp : Bool := false
  /-- How the session's task ended, once it has. -/
  taskEnd : Option TaskEnd := none
  finish : Option Finish := none

/-- When the session is given up. -/
def Seat.limit (seat : Seat) : Nat := seat.part.start + seat.part.patience

/-- The tasks of a seat, which is told by its number. -/
inductive SeatTask
  | supervisor (seat : Nat)
  | session (seat : Nat)
  deriving DecidableEq, Repr

/-- Several parts being played. -/
structure Play where
  ctx : Context
  occupancy : Occupancy
  seats : List Seat
  agenda : Agenda SeatTask
  log : List Log.Record := []

namespace Play

/-- A play before its first turn.  All supervisors are ready. -/
def ofParts (ctx : Context) (registry : Registry) (parts : List Part) : Play :=
  { ctx
    occupancy := { registry }
    seats := parts.map fun part => { part }
    agenda := { ready := (List.range parts.length).map .supervisor } }

/-! ## What is seen -/

/-- What is seen of a signal, for a session that was in the given stage. -/
def sightOf? (stage : Stage) : Signal → Option Sight
  | .read result => some (.read (result.map List.length))
  | .write result =>
    match stage with
    | .awaitingWrite bytes written _ =>
      some (.write (result.map fun n => (bytes.drop written).take n))
    | _ => none
  | .flush result => some (.flush result)
  | .shutdown result => some (.shutdown result)
  | _ => none

/-- Who is connected, what was seen and logged, while effects are applied. -/
structure Scene where
  occupancy : Occupancy
  observations : List Observation
  log : List Log.Record
  releasedTwice : Bool := false

/-- Adds an observation. -/
def Scene.see (s : Scene) (time : Nat) (sight : Sight) : Scene :=
  { s with observations :=
      s.observations ++ [⟨time, sight, s.occupancy.liveCount, s.occupancy.activeCount⟩] }

/-- Applies an effect of the session with the given id. -/
def Scene.apply (s : Scene) (time : Nat) (id : ConnectionId) (e : Effect) : Scene :=
  let seen :=
    match e with
    | .handshakeBegun => s.see time .handshake
    | .dropped => s.see time .dropped
    | _ => s
  let applied := seen.occupancy.apply id e
  { seen with
    occupancy := applied.occupancy
    log := seen.log ++ applied.log
    releasedTwice := seen.releasedTwice || applied.releasedTwice }

/-! ## Turns -/

/-- Changes the agenda. -/
def plan (p : Play) (f : Agenda SeatTask → Agenda SeatTask) : Play :=
  { p with agenda := f p.agenda }

/-- Puts a seat that has changed back among the others. -/
def putBack (p : Play) (i : Nat) (seat : Seat) : Play := { p with seats := p.seats.set i seat }

/-- Writes down how a session's task ended and how things stand. -/
def conclude (p : Play) (i : Nat) (seat : Seat) (task : TaskEnd) (stillActive : Bool) : Play :=
  let finish : Finish :=
    { task
      time := p.agenda.now
      stillActive
      live := p.occupancy.liveCount
      active := p.occupancy.activeCount }
  (p.putBack i { seat with finish }).plan (·.cancel (.supervisor i))

/-- Gives a session up.  It finds out at its next turn. -/
def giveUp (p : Play) (i : Nat) (seat : Seat) : Play :=
  (p.putBack i { seat with isGivenUp := true }).plan fun a =>
    (a.cancel (.session i)).wake (.session i)

/-- Accepts the socket of a seat: an id is claimed and the session begins. -/
def accept (p : Play) (i : Nat) (seat : Seat) : Play :=
  let before := p.occupancy.registry
  let (claimed, registry) := before.claim seat.part.candidate
  let p := { p with occupancy := { p.occupancy with registry } }
  match claimed with
  | none => p.conclude i seat (.ended .abandoned) false
  | some id =>
    let session := Session.start p.ctx id seat.part.peer
    let seat := { seat with player := some ⟨session, seat.part.script, p.agenda.now⟩ }
    let p := { p with log := p.log ++ before.claimLog registry id }
    let p := (p.putBack i seat).plan (·.wake (.session i))
    if seat.limit ≤ p.agenda.now then p.giveUp i seat
    else p.plan (·.waitUntil (.supervisor i) seat.limit)

/-- The turn of a supervisor. -/
def supervise (p : Play) (i : Nat) (seat : Seat) : Play :=
  match seat.player, seat.taskEnd with
  | none, _ =>
    if p.agenda.now < seat.part.start then p.plan (·.waitUntil (.supervisor i) seat.part.start)
    else p.accept i seat
  | some player, some task =>
    p.conclude i seat task (p.occupancy.registry.isActive player.session.id)
  | some _, none => if seat.limit ≤ p.agenda.now then p.giveUp i seat else p

/-- Carries a step of a session through.  A session that is over wakes its supervisor; any other
    takes the next turn, too. -/
def perform (p : Play) (i : Nat) (seat : Seat) (player : Player) (move : Player.Move) : Play :=
  let id := player.session.id
  let scene : Scene := ⟨p.occupancy, seat.observations, p.log, false⟩
  let scene := match sightOf? player.session.stage move.signal with
    | some sight => scene.see move.time sight
    | none => scene
  let scene := move.effects.foldl (fun s e => s.apply move.time id e) scene
  let seat := { seat with player := some move.after, observations := scene.observations }
  let p := { p with occupancy := scene.occupancy, log := scene.log }
  match move.after.session.stage with
  | .ended ending =>
    let taskEnd : TaskEnd := if scene.releasedTwice then .releasedTwice else .ended ending
    (p.putBack i { seat with taskEnd := some taskEnd }).plan (·.wake (.supervisor i))
  | _ => (p.putBack i seat).plan (·.goOn (.session i))

/-- The turn of a session: it takes a step, or it has to wait. -/
def proceed (p : Play) (i : Nat) (seat : Seat) (player : Player) : Play :=
  if seat.isGivenUp then
    match player.abandon p.ctx p.agenda.now with
    | some move => p.perform i seat player move
    | none => p
  else
    match player.upcoming p.ctx with
    | none => p
    | some (time, _) =>
      if p.agenda.now < time then p.plan (·.waitUntil (.session i) time)
      else
        match player.advance p.ctx with
        | some move => p.perform i seat player move
        | none => p

/-- Takes the turn of a task. -/
def turn (p : Play) : SeatTask → Play
  | .supervisor i =>
    match p.seats[i]? with
    | some seat => p.supervise i seat
    | none => p
  | .session i =>
    match p.seats[i]? with
    | some seat =>
      match seat.player with
      | some player => p.proceed i seat player
      | none => p
    | none => p

/-- Takes the next turn; there is none when all tasks are over or wait for ever. -/
def step (p : Play) : Option Play :=
  p.agenda.next.map fun (task, agenda) => { p with agenda }.turn task

end Play

end TlsEcho.Session
