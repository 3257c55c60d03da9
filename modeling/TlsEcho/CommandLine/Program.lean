import TlsEcho.CommandLine.Inspect
import TlsEcho.CommandLine.Options
import TlsEcho.Server.Lifecycle

/-! # The program

The program reads its arguments, loads the configuration, starts a server and waits until it is
interrupted; then it shuts the server down.  Records of level `info` and above are written to the
output, and the failure that ends the program to the errors. -/

namespace TlsEcho.CommandLine

/-- What the program writes, and its exit code if it has ended. -/
structure Transcript where
  output : List String := []
  errors : List String := []
  exitCode : Nat := 0
  deriving DecidableEq, Repr

/-- How far the program comes before it is interrupted. -/
inductive Progress
  | ended (t : Transcript)
  /-- The server listens; so much has been written to the output. -/
  | listening (server : Server) (output : List String)

/-- Whether a record is written to the output. -/
def isShown (r : Log.Record) : Bool :=
  match r.level with
  | .error | .warn | .info => true
  | .debug | .trace => false

/-- The thread that controls the server. -/
def threadName : String := "main"

/-- A record as a line of output. -/
def recordLine (r : Log.Record) : String :=
  r.level.name ++ " " ++ threadName ++ " " ++ r.target ++ ": " ++ r.body

/-- The lines for records. -/
def recordLines (records : List Log.Record) : List String :=
  (records.filter isShown).map recordLine

/-- The part of the program that its own records name. -/
def logTarget : String := "echo_server"

/-- The record of the configuration that is used. -/
def configurationRecord (c : Config) : Log.Record :=
  ⟨.info, logTarget, "configuration loaded",
    [⟨"port", toString c.port.toNat⟩, ⟨"workers", toString c.workerThreads⟩,
     ⟨"max_connections", toString c.maxConnections⟩, ⟨"credentials", c.credentialsDir⟩]⟩

/-- The settings that the options make. -/
def Options.settings (o : Options) : List Setting :=
  (o.port.map Setting.port).toList ++ (o.credentials.map Setting.credentialsDir).toList

/-- The settings of the configuration file and of the options, the options last. -/
def allSettings (files : Files) (o : Options) : Except LoadError (List Setting) :=
  match o.config with
  | none => .ok o.settings
  | some path => (Setting.ofFile (files path)).map (· ++ o.settings)

/-- The text for a failure that ends the program. -/
def failureLine (inspected : String) : String := "Error: " ++ inspected

/-- The transcript of a program that fails. -/
def failed (output : List String) (inspected : String) : Transcript :=
  { output, errors := [failureLine inspected], exitCode := 1 }

/-- Starts a server with the given options.  The host is asked for the configuration that has been
    put together. -/
def run (host : Config → Host) (files : Files) (base : Config) (draws : Nat → ConnectionId)
    (o : Options) : Progress :=
  match allSettings files o with
  | .error e => .ended (failed [] e.inspect)
  | .ok settings =>
    let config := base.setAll settings
    let server := Server.ofConfig config draws .tls
    let (answer, server, log) := server.start { host config with files }
    let output := recordLines (configurationRecord config :: config.validationLog ++ log)
    match answer with
    | .ok () => .listening server output
    | .error e => .ended (failed output e.inspect)

/-- Runs the program up to the point where it waits. -/
def begin (host : Config → Host) (files : Files) (base : Config) (draws : Nat → ConnectionId)
    (arguments : List String) : Progress :=
  match readArguments arguments with
  | .error e => .ended { errors := e.report, exitCode := 2 }
  | .ok .help => .ended { output := helpText }
  | .ok (.run o) => run host files base draws o

/-- What the program does when it is interrupted while the server listens. -/
def interrupt (server : Server) : Transcript :=
  let (answer, _, log) := server.shutdown .plain
  let received : Log.Record := ⟨.info, logTarget, "received Ctrl-C", []⟩
  let output := recordLines (received :: log)
  match answer with
  | .ok () => { output }
  | .error e => failed output e.inspect

/-- Everything that the program writes when it is interrupted once the server listens. -/
def Progress.interrupted : Progress → Transcript
  | .ended t => t
  | .listening server output =>
    let t := interrupt server
    { t with output := output ++ t.output }

end TlsEcho.CommandLine
