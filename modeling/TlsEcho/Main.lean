import TlsEcho.CommandLine.Program
import TlsEcho.Random.ChaCha

/-! # The command line program

Reads the arguments and the files that they name, and writes what `CommandLine.begin` and
`CommandLine.interrupt` say.  A line on the standard input, or its end, interrupts the program.
Connections are made in memory only. -/

namespace TlsEcho.CommandLine

/-- The reason for which a file could not be read. -/
def fileErrorOf : IO.Error → FileError
  | .noFileOrDirectory .. => .notFound
  | .inappropriateType .. => .isDirectory
  | e => .other (toString e)

/-- Reads a file. -/
def readPath (path : String) : IO (Except FileError Bytes) := do
  try
    return .ok (← IO.FS.readBinFile path).toList
  catch e =>
    return .error (fileErrorOf e)

/-- What reading the given paths gives. -/
def readPaths (paths : List String) : IO Files := do
  let contents ← paths.mapM fun path => do return (path, ← readPath path)
  return fun path =>
    match contents.find? fun c => c.1 == path with
    | some (_, content) => content
    | none => .error .notFound

/-- The paths of the files of credentials that a configuration names. -/
def credentialPaths (c : Config) : List String :=
  let dir := c.credentialsDir
  let pair := [Credentials.certificatePath dir, pathIn dir Credentials.privateKeyFile]
  match c.peerVerification with
  | .none => pair
  | .required caFile => caFile :: pair

/-- Reads all files that the arguments name, first the configuration and then what it names. -/
def gatherFiles (base : Config) (arguments : List String) : IO Files := do
  match readArguments arguments with
  | .ok (.run o) =>
    let first ← readPaths o.config.toList
    match allSettings first o with
    | .ok settings =>
      let second ← readPaths (credentialPaths (base.setAll settings))
      return fun path => if o.config = some path then first path else second path
    | .error _ => return first
  | _ => return fun _ => .error .notFound

/-- Writes a transcript and gives its exit code. -/
def write (t : Transcript) : IO UInt32 := do
  t.output.forM IO.println
  t.errors.forM IO.eprintln
  return UInt32.ofNat t.exitCode

end TlsEcho.CommandLine

open TlsEcho TlsEcho.CommandLine in
/-- Runs the program. -/
def main (arguments : List String) : IO UInt32 := do
  let base := Config.default Config.minWorkerThreads
  let files ← gatherFiles base arguments
  let seed ← IO.rand 0 (UInt64.size - 1)
  let draws (n : Nat) : ConnectionId := ⟨Random.ChaCha.draw (UInt64.ofNat seed) n⟩
  let host (c : Config) : Host := { bound := .ok c.listenAddress }
  match begin host files base draws arguments with
  | .ended t => write t
  | .listening server output =>
    output.forM IO.println
    let _ ← (← IO.getStdin).getLine
    write (interrupt server)
