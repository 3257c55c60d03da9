import TlsEcho.Server.Basic

/-! # The steps of a running server

`Server.step` says what an event does, or nothing if the event cannot happen.  What the accept
loop, the sessions and the drawing tasks do, and what clients and the clock do, are single events,
so that a run is a list of events in any order in which they can happen.  When several of the
events that the accept loop waits for can happen, any of them may be next. -/

namespace TlsEcho.Server

/-- Something that may happen next. -/
inductive Event
  /-- A client connects. -/
  | connect (peer : Option Address)
  /-- The accept loop goes on to its next wait. -/
  | proceed
  /-- The task that draws the next id does so. -/
  | draw
  /-- The task that draws the next id fails. -/
  | drawFails
  /-- An id is drawn for nobody. -/
  | drawStray
  /-- The accept loop takes the first waiting connection. -/
  | accept
  /-- The outstanding accept fails, for a reason. -/
  | acceptFails (reason : String)
  /-- The accept loop notices that the number of live connections moved. -/
  | liveChanged
  /-- The accept loop is told to stop. -/
  | signalStop
  /-- The accept loop notices that it is to stop. -/
  | stop
  /-- The accept loop has waited long enough. -/
  | wake
  /-- The session of a connection gets a signal. -/
  | session (connection : Nat) (signal : Session.Signal)
  /-- Time passes. -/
  | advance (d : Duration)

/-- The part of the server that the accept loop's records name. -/
def logTarget : String := "moat::server"

/-- The server with its running part changed. -/
def withRunning (s : Server) (r : Running) : Server := { s with running := some r }

/-- The server with its accept loop changed. -/
def withLoop (s : Server) (r : Running) (loop : AcceptLoop) : Server :=
  s.withRunning { r with loop }

/-- The end of the accept loop.  The listener goes with it and closes the connections that wait;
    an id that is still being drawn is drawn for nobody. -/
def endLoop (s : Server) (r : Running) (how : LoopEnd) : Server × List Effect :=
  let stray := if r.loop.candidate = some .pending then 1 else 0
  let refused := r.loop.admitted?.toList ++ r.backlog
  let loop := { r.loop.enter (.ended how) with candidate := none }
  ({ s.withRunning { r with loop, backlog := [] } with strayDraws := s.strayDraws + stray },
    refused.map fun c => .refused c.connection)

/-! ## The accept loop -/

/-- Asks admission. -/
def checkAdmission (s : Server) (r : Running) : Server × List Effect :=
  let live := s.liveCount
  let records := (s.controller.checkLog live s.clock).map Effect.log
  match s.controller.check live s.clock with
  | (.error e, _) => s.endLoop r (.failed (.overflow e))
  | (.ok .accept, controller) =>
    ({ s.withLoop r (r.loop.enter .choosing) with controller }, records)
  | (.ok (.coolDown wait), controller) =>
    ({ s.withLoop r (r.loop.enter (.coolingDown (s.clock.add? wait))) with controller }, records)

/-- Uses the id that was drawn ahead, or has one drawn. -/
def chooseCandidate (s : Server) (r : Running) : Server × List Effect :=
  match r.loop.candidate with
  | some _ => (s.withLoop r (r.loop.enter .accepting), [])
  | none =>
    (s.withLoop r { r.loop.enter .accepting with candidate := some .pending }, [.candidateSpawned])

/-- Gives the accepted connection an id and a session. -/
def openSession (s : Server) (r : Running) (c : Incoming) (candidate : ConnectionId) :
    Server × List Effect :=
  match s.occupancy.registry.claim candidate with
  | (none, registry) =>
    { s with occupancy := { s.occupancy with registry } }.endLoop r (.failed .collisions)
  | (some id, registry) =>
    let task : SessionTask :=
      { connection := c.connection, session := .start s.context id c.peer }
    let records := (s.occupancy.registry.claimLog registry id).map Effect.log
    ({ s.withLoop r { r.loop.enter .checking with candidate := none } with
        occupancy := { s.occupancy with registry }
        tasks := s.tasks ++ [task] },
      records ++ [.sessionStarted c.connection id])

/-- Takes the accept loop to its next wait. -/
def proceed (s : Server) (r : Running) : Option (Server × List Effect) :=
  match r.loop.stage with
  | .starting =>
    some (s.withLoop r { r.loop.enter .checking with watcher := .subscribe s.occupancy.live }, [])
  | .checking => some (s.checkAdmission r)
  | .coolingOver =>
    some ({ s.withLoop r (r.loop.enter .catchingUp) with controller := s.controller.resume },
      s.controller.resumeLog.map Effect.log)
  | .catchingUp =>
    some (s.withLoop r
      { r.loop.enter .checking with watcher := r.loop.watcher.markSeen s.occupancy.live }, [])
  | .choosing => some (s.chooseCandidate r)
  | .admitting c =>
    match r.loop.candidate with
    | some (.drawn id) => some (s.openSession r c id)
    | some .failed => some (s.endLoop r (.failed .candidate))
    | _ => none
  | _ => none

/-- Takes the first waiting connection. -/
def accept (s : Server) (r : Running) : Option (Server × List Effect) :=
  match r.loop.stage, r.backlog with
  | .accepting, c :: backlog =>
    some (s.withRunning { r with loop := r.loop.enter (.admitting c), backlog },
      [.acceptEnded (some c.connection)])
  | _, _ => none

/-- Lets the outstanding accept fail.  Its candidate is given up. -/
def acceptFails (s : Server) (r : Running) (reason : String) : Option (Server × List Effect) :=
  match r.loop.stage with
  | .accepting =>
    let stray := if r.loop.candidate = some .pending then 1 else 0
    let wakes := s.clock.add? AcceptLoop.backoff
    some ({ s.withLoop r { r.loop.enter (.backingOff wakes) with candidate := none } with
        strayDraws := s.strayDraws + stray },
      [.acceptEnded none, .log ⟨.warn, logTarget, "accept failed", [⟨"error", reason⟩]⟩])
  | _ => none

/-- Lets the accept loop notice that it is to stop. -/
def stop (s : Server) (r : Running) : Option (Server × List Effect) :=
  (r.loop.stopRequested? r.stopRequests).map fun loop => s.endLoop { r with loop } .stopped

/-- What the task that draws the next id comes to. -/
def drawEnds (s : Server) (r : Running) (fails : Bool) : Option (Server × List Effect) :=
  if r.loop.candidate = some .pending then
    if fails then some (s.withLoop r { r.loop with candidate := some .failed }, [])
    else
      let (id, registry) := s.occupancy.registry.candidate
      some ({ s.withLoop r { r.loop with candidate := some (.drawn id) } with
        occupancy := { s.occupancy with registry } }, [])
  else none

/-! ## Sessions -/

/-- The tasks after the session of a connection has changed; one that is over is dropped. -/
def replaceSession (tasks : List SessionTask) (connection : Nat) (session : Session) :
    List SessionTask :=
  if session.isOver then tasks.filter fun t => t.connection ≠ connection
  else tasks.map fun t => if t.connection = connection then { t with session } else t

/-- Gives a signal to the session of a connection. -/
def stepSession (s : Server) (connection : Nat) (signal : Session.Signal) :
    Option (Server × List Effect) := do
  let task ← s.tasks.find? fun t => t.connection = connection
  let (session, effects) ← task.session.step s.context signal
  let applied := s.occupancy.applyAll session.id effects
  return ({ s with
      occupancy := applied.occupancy
      tasks := replaceSession s.tasks connection session },
    applied.log.map Effect.log ++ effects.map (Effect.session connection))

/-! ## All events -/

/-- A client connects to a server that listens. -/
def connect (s : Server) (r : Running) (peer : Option Address) : Option (Server × List Effect) :=
  if r.loop.ending?.isSome then none
  else
    some ({ s.withRunning { r with backlog := r.backlog ++ [⟨s.connections, peer⟩] } with
      connections := s.connections + 1 }, [])

/-- What an event does. -/
def step (s : Server) : Event → Option (Server × List Effect)
  | .connect peer => s.running.bind fun r => s.connect r peer
  | .proceed => s.running.bind s.proceed
  | .draw => s.running.bind fun r => s.drawEnds r false
  | .drawFails => s.running.bind fun r => s.drawEnds r true
  | .drawStray =>
    if s.strayDraws = 0 then none
    else
      let (_, registry) := s.occupancy.registry.candidate
      some ({ s with
        occupancy := { s.occupancy with registry }, strayDraws := s.strayDraws - 1 }, [])
  | .accept => s.running.bind s.accept
  | .acceptFails reason => s.running.bind fun r => s.acceptFails r reason
  | .liveChanged =>
    s.running.bind fun r =>
      (r.loop.liveChanged? s.occupancy.live).map fun loop => (s.withLoop r loop, [])
  | .signalStop =>
    s.running.map fun r => (s.withRunning { r with stopRequests := r.stopRequests + 1 }, [])
  | .stop => s.running.bind s.stop
  | .wake =>
    s.running.bind fun r => (r.loop.wake? s.clock).map fun loop => (s.withLoop r loop, [])
  | .session connection signal => s.stepSession connection signal
  | .advance d => (s.clock.add? d).map fun clock => ({ s with clock }, [])

end TlsEcho.Server
