import TlsEcho.Server.Step
import TlsEcho.Transport.Credentials

/-! # Starting and stopping a server

Starting loads the credentials, starts the pool, binds the listener and spawns the accept loop, in
that order.  A start that fails leaves nothing behind.  Shutting down ends the accept loop and stops
the pool, and the pool drops the sessions that it drives: before the shutdown returns to an ordinary
thread, some time later if it was called inside a task.  Both do nothing if there is nothing to
do.

An ordinary thread tells the loop to stop and waits for its end.  The loop notices only where it
waits, so that it goes on until then, and on the way it may open a session or fail. -/

namespace TlsEcho

/-- What the machine answers to the calls of a start. -/
structure Host where
  /-- What reading files gives. -/
  files : Files := fun _ => .error .notFound
  /-- Why no workers can be started, if they cannot. -/
  noWorkers : Option String := none
  /-- The address that the listener gets, or why it gets none. -/
  bound : Except String Address
  /-- Why the address of the listener cannot be told, if it cannot. -/
  noAddress : Option String := none

/-- Why the port cannot be bound when another server has it. -/
def addressInUse : String := "Address already in use (os error 98)"

namespace Server

/-! ## Starting -/

/-- Loads what it takes to secure connections. -/
def loadTransport (s : Server) (files : Files) : Except TransportError (List Log.Record) :=
  match s.security with
  | .none => .ok []
  | .tls =>
    let dir := s.config.credentialsDir
    let verification := s.config.peerVerification
    (Credentials.loadFrom files dir verification).map fun _ =>
      Credentials.loadLog (Credentials.certificatePath dir) verification

/-- Binds the listener. -/
def bindListener (s : Server) (host : Host) : Except ServerError Address :=
  let failed (reason : String) : ServerError := .bind s.config.listenAddress reason
  match host.bound, host.noAddress with
  | .error reason, _ => .error (failed reason)
  | .ok _, some reason => .error (failed reason)
  | .ok address, none => .ok address

/-- The record of a server that listens. -/
def listeningRecord (s : Server) (address : Address) : Log.Record :=
  ⟨.info, logTarget, "server listening",
    [⟨"addr", address.render⟩, ⟨"workers", toString s.pool.workers⟩,
     ⟨"max_connections", toString s.controller.limits.maxConnections⟩,
     ⟨"policy", s.config.echoPolicy.label⟩]⟩

/-- The server with a listener and an accept loop.  A cooldown that an earlier run left behind is
    over. -/
def launched (s : Server) (pool : WorkerPool) (address : Address) : Server :=
  { s with pool, controller := s.controller.resume, running := some { address } }

/-- Starts the server, and says what is logged meanwhile. -/
def start (s : Server) (host : Host) : Except ServerError Unit × Server × List Log.Record :=
  if s.isRunning then
    (.ok (), s, [⟨.debug, logTarget, "start called on a running server", []⟩])
  else
    match s.loadTransport host.files with
    | .error e => (.error (.transport e), s, [])
    | .ok loading =>
      match s.pool.start host.noWorkers with
      | .error e => (.error e, s, loading)
      | .ok pool =>
        let log := loading ++ s.pool.startLog
        match s.bindListener host with
        | .error e => (.error e, { s with pool := pool.stop }, log ++ pool.stopLog .plain)
        | .ok address =>
          (.ok (), s.launched pool address,
            log ++ s.controller.resumeLog ++ [s.listeningRecord address])

/-! ## Shutting down -/

/-- Gives up the sessions of the given connections, one after the other. -/
def abandon (s : Server) : List Nat → Server × List Effect
  | [] => (s, [])
  | connection :: rest =>
    match s.stepSession connection .abandon with
    | none => s.abandon rest
    | some (s, effects) =>
      let (s, more) := s.abandon rest
      (s, effects ++ more)

/-- The connections whose sessions the present workers drive, the oldest first. -/
def ownConnections (s : Server) : List Nat :=
  (s.tasks.filter fun t => !t.isLeftOver).map SessionTask.connection

/-- What an accept loop does next that is told to stop.  It notices that where it waits, and goes on
    until then.  An id that an accepted connection waits for is drawn first. -/
def ownEvent? (l : AcceptLoop) : Option Event :=
  match l.stage with
  | .ended _ => none
  | .coolingDown _ | .accepting | .backingOff _ => some .stop
  | .admitting _ => if l.candidate = some .pending then some .draw else some .proceed
  | .starting | .checking | .coolingOver | .catchingUp | .choosing => some .proceed

/-- The server after at most so many steps of its accept loop, and what happened meanwhile. -/
def runLoop (s : Server) : Nat → Server × List Effect
  | 0 => (s, [])
  | n + 1 =>
    match s.running.bind fun r => (ownEvent? r.loop).bind s.step with
    | none => (s, [])
    | some (s, effects) =>
      let (s, more) := s.runLoop n
      (s, effects ++ more)

/-- Tells the accept loop to stop and waits until it has ended.  Whatever else may happen while the
    thread waits may as well happen between an earlier request to stop and this one. -/
def joinLoop (s : Server) (r : Running) : Server × List Effect :=
  (s.withRunning { r with stopRequests := r.stopRequests + 1 }).runLoop r.loop.stepsLeft

/-- Ends the accept loop where it stands, unless it has ended.  A step that it is about to take
    comes before the shutdown. -/
def abortLoop (s : Server) (r : Running) : Server × List Effect :=
  if r.loop.ending?.isSome then (s, []) else s.endLoop r .stopped

/-- Ends the accept loop.  An ordinary thread waits for its end, and a task, which must not wait,
    aborts it. -/
def haltLoop (s : Server) (r : Running) (context : CallContext) : Server × List Effect :=
  match context with
  | .plain => s.joinLoop r
  | .task => s.abortLoop r

/-- What a shutdown answers for an accept loop that ended in the given way.  A task that must not
    wait does not learn how the loop ended. -/
def shutdownAnswer (context : CallContext) (how : LoopEnd) : Except ServerError Unit :=
  match context, how with
  | .plain, .failed e => .error (.acceptLoop e)
  | _, _ => .ok ()

/-- Stops the workers.  An ordinary thread waits until they have dropped their sessions.  A task
    must not wait: its sessions are left over, and each is dropped some time later. -/
def stopWorkers (s : Server) (context : CallContext) : Server × List Effect :=
  match context with
  | .plain =>
    let (s, effects) := s.abandon s.ownConnections
    ({ s with pool := s.pool.stop, strayDraws := 0 }, effects)
  | .task =>
    ({ s with
      pool := s.pool.stop, tasks := s.tasks.map fun t => { t with isLeftOver := true } }, [])

/-- The server after its accept loop has ended and its workers have been stopped, and what happened
    meanwhile. -/
def stopped (s : Server) (r : Running) (context : CallContext) : Server × List Effect :=
  let (s, effects) := s.haltLoop r context
  let (s, dropped) := { s with running := none }.stopWorkers context
  (s, effects ++ dropped)

/-- Shuts the server down, and says what the calling thread logs meanwhile.  The accept loop has
    always ended by the time that the answer is given (`exists_loopEnd?_haltLoop`). -/
def shutdown (s : Server) (context : CallContext) :
    Except ServerError Unit × Server × List Log.Record :=
  match s.running with
  | none => (.ok (), s, [])
  | some r =>
    let how := (s.haltLoop r context).1.loopEnd?.getD .stopped
    (shutdownAnswer context how, (s.stopped r context).1,
      [⟨.info, logTarget, "shutting down", [⟨"addr", r.address.render⟩]⟩] ++
        s.pool.stopLog context ++ [⟨.info, logTarget, "shutdown complete", []⟩])

/-- Drops the server: it is shut down, and a failure is reported. -/
def dropLog (s : Server) (context : CallContext) : List Log.Record :=
  let (answer, _, log) := s.shutdown context
  match answer with
  | .ok () => log
  | .error e => log ++ [⟨.error, logTarget, "accept loop ended with error", [⟨"error", e.message⟩]⟩]

/-! ## Whole runs -/

/-- Something that happens to a server: an event while it runs, or a call of its owner. -/
inductive Action
  | event (e : Event)
  | start (host : Host)
  | shutdown (context : CallContext)

/-- The server after an action and what happened, if the action can happen. -/
def act (s : Server) : Action → Option (Server × List Effect)
  | .event e => s.step e
  | .start host =>
    let (_, after, log) := s.start host
    some (after, log.map Effect.log)
  | .shutdown context =>
    let (_, after, log) := s.shutdown context
    let dropped := s.running.elim [] fun r => (s.stopped r context).2
    some (after, dropped ++ log.map Effect.log)

/-- The server after a sequence of actions and what happened, if they can happen in this order. -/
def run (s : Server) : List Action → Option (Server × List Effect)
  | [] => some (s, [])
  | a :: rest =>
    match s.act a with
    | none => none
    | some (s, effects) => (s.run rest).map fun (s, more) => (s, effects ++ more)

end Server

end TlsEcho
