import TlsEcho.Address
import TlsEcho.Admission.Controller
import TlsEcho.Echo.Policy

/-! # Configuration

Everything that a server has to know before it starts.  A `Setting` is one field with its value,
and `Config.set` puts it into a configuration: reading a document and building a configuration by
hand are both sequences of settings over the defaults.

`Config.validated` raises the numbers that are too small to work with. -/

namespace TlsEcho

/-- What is asked of clients' certificates. -/
inductive PeerVerification
  | none
  /-- Every client shows a certificate that an authority of this file has signed. -/
  | required (caFile : String)
  deriving DecidableEq, Repr, Inhabited

/-- The configuration of a server. -/
structure Config where
  workerThreads : Nat
  /-- The port to listen on at all local addresses; zero lets the system pick one. -/
  port : UInt16
  /-- The number of live connections at which accepting stops. -/
  maxConnections : Nat
  /-- How long accepting stays stopped. -/
  cooldown : Duration
  /-- The directory of the certificate and the private key. -/
  credentialsDir : String
  peerVerification : PeerVerification
  echoPolicy : Echo.PolicyKind
  /-- The most bytes of a message that the accumulating policy keeps. -/
  accumulateLimit : Option Nat
  /-- How long a peer may be silent. -/
  idleTimeout : Option Duration
  /-- How many connections may wait to be accepted. -/
  backlog : UInt32
  deriving DecidableEq

namespace Config

/-- The fewest worker threads that a server runs with. -/
def minWorkerThreads : Nat := 2

/-- The configuration of a server for which nothing is set, on a machine with so many
    processors. -/
def default (processors : Nat) : Config :=
  let limits : Admission.Limits := {}
  { workerThreads := processors
    port := 8443
    maxConnections := limits.maxConnections
    cooldown := limits.cooldown
    credentialsDir := "certs"
    peerVerification := .none
    echoPolicy := .immediate
    accumulateLimit := none
    idleTimeout := none
    backlog := 1024 }

/-- The part that admission enforces. -/
def limits (c : Config) : Admission.Limits :=
  { maxConnections := c.maxConnections, cooldown := c.cooldown }

/-- The address that the server listens on: the port at all addresses of the machine. -/
def listenAddress (c : Config) : Address := { ip := .v4 0 0 0 0, port := c.port }

/-- The configuration with the numbers raised that are too small to work with. -/
def validated (c : Config) : Config :=
  { c with
    workerThreads := max c.workerThreads minWorkerThreads
    backlog := max c.backlog 1
    maxConnections := c.limits.validated.maxConnections }

/-- The part of the server that a configuration's records name. -/
def logTarget : String := "moat::config"

/-- What `validated` reports: the numbers that it raised. -/
def validationLog (c : Config) : List Log.Record :=
  let threads : List Log.Record :=
    if c.workerThreads < minWorkerThreads then
      [⟨.warn, logTarget, "worker_threads below minimum",
        [⟨"requested", toString c.workerThreads⟩, ⟨"using", toString minWorkerThreads⟩]⟩]
    else []
  let backlog : List Log.Record :=
    if c.backlog = 0 then [⟨.warn, logTarget, "backlog of 0 requested, using 1", []⟩] else []
  threads ++ backlog ++ c.limits.validationLog

end Config

/-! ## Settings -/

/-- A field of a configuration with its value. -/
inductive Setting
  | workerThreads (n : Nat)
  | port (p : UInt16)
  | maxConnections (n : Nat)
  | cooldown (d : Duration)
  | credentialsDir (path : String)
  | peerVerification (v : PeerVerification)
  | echoPolicy (k : Echo.PolicyKind)
  | accumulateLimit (n : Nat)
  | idleTimeout (d : Duration)
  | backlog (n : UInt32)
  deriving DecidableEq

/-- Puts a setting into a configuration. -/
def Config.set (c : Config) : Setting → Config
  | .workerThreads n => { c with workerThreads := n }
  | .port p => { c with port := p }
  | .maxConnections n => { c with maxConnections := n }
  | .cooldown d => { c with cooldown := d }
  | .credentialsDir path => { c with credentialsDir := path }
  | .peerVerification v => { c with peerVerification := v }
  | .echoPolicy k => { c with echoPolicy := k }
  | .accumulateLimit n => { c with accumulateLimit := some n }
  | .idleTimeout d => { c with idleTimeout := some d }
  | .backlog n => { c with backlog := n }

/-- Puts settings into a configuration, one after the other. -/
def Config.setAll (c : Config) (settings : List Setting) : Config := settings.foldl Config.set c

/-! ## Building a configuration by hand -/

/-- A step of building a configuration. -/
inductive BuilderCall
  | set (s : Setting)
  /-- Starts over from a whole configuration. -/
  | config (c : Config)
  deriving DecidableEq

/-- The effect of a step. -/
def BuilderCall.apply (c : Config) : BuilderCall → Config
  | .set s => c.set s
  | .config whole => whole

/-- The configuration that a sequence of steps builds, before it is validated. -/
def Config.build (initial : Config) (calls : List BuilderCall) : Config :=
  calls.foldl BuilderCall.apply initial

end TlsEcho
