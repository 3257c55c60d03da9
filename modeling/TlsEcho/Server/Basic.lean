import TlsEcho.Config.Basic
import TlsEcho.Server.AcceptLoop
import TlsEcho.Server.WorkerPool
import TlsEcho.Session.Occupancy

/-! # Servers

A server has its configuration, its pool of workers, the registry and the live counter that its
sessions share, and admission.  While it runs it also has a listener with the connections that
wait to be accepted, and an accept loop.  The sessions are tasks of their own: they outlive the
accept loop until the pool has dropped them. -/

namespace TlsEcho

/-- How a server secures its connections. -/
inductive Security
  /-- Not at all. -/
  | none
  /-- By TLS, with the credentials that the configuration names. -/
  | tls
  deriving DecidableEq, Repr

/-- The task of one accepted connection. -/
structure SessionTask where
  /-- The number of the connection. -/
  connection : Nat
  session : Session
  /-- Whether its workers were stopped and nobody waited until they had dropped it. -/
  isLeftOver : Bool := false
  deriving DecidableEq

/-- What a server has only while it runs. -/
structure Running where
  /-- The address that the listener is bound to. -/
  address : Address
  loop : AcceptLoop := {}
  /-- The connections that wait to be accepted, the first one first. -/
  backlog : List Incoming := []
  /-- How often the loop has been told to stop. -/
  stopRequests : Nat := 0
  deriving DecidableEq

/-- A server. -/
structure Server where
  /-- The configuration, validated. -/
  config : Config
  security : Security := .none
  pool : WorkerPool
  controller : Admission.Controller
  occupancy : Occupancy
  clock : Instant := .start
  running : Option Running := none
  /-- The sessions that have not ended, the oldest first. -/
  tasks : List SessionTask := []
  /-- How many ids are still to be drawn for nobody. -/
  strayDraws : Nat := 0
  /-- How many connections clients have made so far. -/
  connections : Nat := 0

namespace Server

/-- A stopped server.  The stream is the one that its ids come from. -/
def ofConfig (config : Config) (draws : Nat → ConnectionId) (security : Security := .none) :
    Server :=
  let config := config.validated
  { config
    security
    pool := .ofWorkers config.workerThreads
    controller := .ofLimits config.limits
    occupancy := { registry := .ofDraws draws } }

/-- What all sessions of the server share. -/
def context (s : Server) : Session.Context :=
  { policy := s.config.echoPolicy
    accumulateLimit := s.config.accumulateLimit
    idleTimeout := s.config.idleTimeout }

/-- Whether the server has been started and not shut down. -/
def isRunning (s : Server) : Bool := s.running.isSome

/-- The address that the server listens on, if it runs. -/
def address? (s : Server) : Option Address := s.running.map Running.address

/-- How the accept loop ended, if there is one and it has. -/
def loopEnd? (s : Server) : Option LoopEnd := s.running.bind fun r => r.loop.ending?

/-- How many connections have finished their handshake and are open. -/
def liveCount (s : Server) : Nat := s.occupancy.liveCount

/-- How many connections have been accepted and are open. -/
def activeCount (s : Server) : Nat := s.occupancy.activeCount

/-- Whether admission is listening and not in a cooldown. -/
def isListening (s : Server) : Bool := s.controller.isListening

/-- Something that happens in a server, beyond the change of its state. -/
inductive Effect
  | log (record : Log.Record)
  /-- A task to draw the next id is started. -/
  | candidateSpawned
  /-- An accept ended with a connection, or it failed. -/
  | acceptEnded (connection : Option Nat)
  /-- A connection got an id and a session. -/
  | sessionStarted (connection : Nat) (id : ConnectionId)
  /-- The session of a connection did something. -/
  | session (connection : Nat) (e : Session.Effect)
  /-- A connection was closed that never got a session. -/
  | refused (connection : Nat)
  deriving DecidableEq

/-- The records among effects. -/
def Effect.records (effects : List Effect) : List Log.Record :=
  effects.filterMap fun
    | .log r => some r
    | _ => none

end Server

end TlsEcho
