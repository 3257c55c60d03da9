import TlsEcho.Config.Basic
import TlsEcho.Config.Mismatch

/-! # Configurations from documents

A document sets fields by name, in any order; names that no field has are left alone.  Every
field has a rule of its own for the values that it accepts, and the first entry with a value that
its field does not accept decides the error.

A configuration may also be read from a value that stands on its own.  Then it may be a list with
the fields in their fixed order, and dates and times in it are texts. -/

namespace TlsEcho

open Toml (Value Entries)

namespace Decode

/-! ## Values of single fields -/

/-- A natural number below a bound. -/
def natural (source : Source) (bound : Nat) (wanted : Wanted) : Value → Except Mismatch Nat
  | .integer n => if 0 ≤ n ∧ n < bound then .ok n.toNat else .error (.range n wanted)
  | v => .error (.kind (v.shape source) wanted)

/-- A number of connections, threads or bytes. -/
def count (source : Source) : Value → Except Mismatch Nat := natural source UInt64.size .count

/-- A port. -/
def word16 (source : Source) (v : Value) : Except Mismatch UInt16 :=
  (natural source UInt16.size .word16 v).map UInt16.ofNat

/-- A length of the backlog. -/
def word32 (source : Source) (v : Value) : Except Mismatch UInt32 :=
  (natural source UInt32.size .word32 v).map UInt32.ofNat

/-- A number of seconds, whole or not. -/
def seconds (source : Source) : Value → Except Mismatch Duration
  | .float x => (Duration.ofBinary64 x).mapError .seconds
  | .integer n => (Duration.ofBinary64 (.ofInt n)).mapError .seconds
  | v => .error (.kind (v.shape source) .seconds)

/-- A path.  The text of a date or time is one, where the date or time is its text. -/
def path (source : Source) : Value → Except Mismatch String
  | .string text => .ok text
  | .datetime text => if source = .document then .error (.kind .map .path) else .ok text
  | v => .error (.kind (v.shape source) .path)

/-! ## The echo policy

A policy is given by its name, or by a table with the name as its only key and nothing in it. -/

/-- The policy with a name. -/
def policyName (name : String) : Except Mismatch Echo.PolicyKind :=
  match Echo.PolicyKind.ofName? name with
  | some k => .ok k
  | none => .error (.unknownChoice name (Echo.PolicyKind.all.map Echo.PolicyKind.name))

/-- Checks that there is nothing in the table of a policy, for which an empty array may stand.  An
    array in a document that holds something is reported as a table. -/
def policyContent (source : Source) : Value → Except Mismatch Unit
  | .table [] | .array [] | .tables [] => .ok ()
  | .table _ => .error (.policyNotEmpty false)
  | .array _ => .error (.policyNotEmpty (source = .value))
  | .tables _ => .error (.policyNotEmpty true)
  | v => .error (.policyContent v.kindName)

/-- An echo policy. -/
def echoPolicy (source : Source) : Value → Except Mismatch Echo.PolicyKind
  | .string name => policyName name
  | .table [(name, content)] => do
    let kind ← policyName name
    policyContent source content
    return kind
  | .table [] => .error (.policyEntries false)
  | .table _ => .error (.policyEntries true)
  | _ => .error (match source with | .document => .policyKind | .value => .policyForm)

/-! ## What is asked of clients' certificates

The mode is an entry of a table, in any position, or the first item of a list. -/

/-- The key of the mode. -/
def modeKey : String := "mode"

/-- The key of the file of the authorities. -/
def caFileKey : String := "ca_file"

/-- Whether certificates are required. -/
inductive Mode
  | none | required
  deriving DecidableEq, Repr

/-- The name of a mode. -/
def Mode.name : Mode → String
  | .none => "none"
  | .required => "required"

/-- What is said of a text that names no mode. -/
def unknownMode (name : String) : Mismatch :=
  .unknownChoice name [Mode.none.name, Mode.required.name]

/-- A mode.  The text of a date or time names none. -/
def mode (source : Source) : Value → Except Mismatch Mode
  | .string name =>
    if name = Mode.none.name then .ok .none
    else if name = Mode.required.name then .ok .required
    else .error (unknownMode name)
  | .datetime text =>
    .error (if source = .document then .kind .map .choice else unknownMode text)
  | v => .error (.kind (v.shape source) .choice)

/-- What a table asks of clients' certificates. -/
def verificationTable (source : Source) (entries : Entries) : Except Mismatch PeerVerification :=
  match entries.get? modeKey with
  | .none => .error (.missingField modeKey)
  | some tag => do
    match ← mode source tag with
    | .none => return .none
    | .required =>
      match entries.get? caFileKey with
      | .none => throw (.missingField caFileKey)
      | some v => return .required (← path source v)

/-- What a list asks of clients' certificates. -/
def verificationList (source : Source) : List Value → Except Mismatch PeerVerification
  | [] => .error (.missingField modeKey)
  | tag :: rest => do
    match ← mode source tag with
    | .none => if rest.isEmpty then return .none else throw (.length rest.length (.exactly 0))
    | .required =>
      match rest with
      | [] => throw (.length 0 .caFile)
      | v :: more =>
        let caFile ← path source v
        if more.isEmpty then return .required caFile else throw (.length rest.length (.exactly 1))

/-- What is asked of clients' certificates.  A date or time of a document is a table without a
    mode. -/
def peerVerification (source : Source) : Value → Except Mismatch PeerVerification
  | .table entries => verificationTable source entries
  | .array items | .tables items => verificationList source items
  | .datetime text =>
    if source = .document then verificationTable source []
    else .error (.kind (.string text) .peerVerification)
  | v => .error (.kind (v.shape source) .peerVerification)

end Decode

/-! ## Fields by name -/

/-- A field of a configuration. -/
inductive ConfigField
  | workerThreads | port | maxConnections | cooldown | credentialsDir | peerVerification
  | echoPolicy | accumulateLimit | idleTimeout | backlog
  deriving DecidableEq, Repr

namespace ConfigField

/-- All fields in their fixed order. -/
def all : List ConfigField :=
  [.workerThreads, .port, .maxConnections, .cooldown, .credentialsDir, .peerVerification,
   .echoPolicy, .accumulateLimit, .idleTimeout, .backlog]

/-- The key of a field. -/
def key : ConfigField → String
  | .workerThreads => "worker_threads"
  | .port => "port"
  | .maxConnections => "max_connections"
  | .cooldown => "cooldown_secs"
  | .credentialsDir => "credentials_dir"
  | .peerVerification => "peer_verification"
  | .echoPolicy => "echo_policy"
  | .accumulateLimit => "accumulate_limit"
  | .idleTimeout => "idle_timeout_secs"
  | .backlog => "backlog"

/-- The field with a key. -/
def ofKey? (k : String) : Option ConfigField := all.find? fun f => f.key == k

/-- Reads the value of a field. -/
def decode (source : Source) (v : Value) : ConfigField → Except Mismatch Setting
  | .workerThreads => (Decode.count source v).map .workerThreads
  | .port => (Decode.word16 source v).map .port
  | .maxConnections => (Decode.count source v).map .maxConnections
  | .cooldown => (Decode.seconds source v).map .cooldown
  | .credentialsDir => (Decode.path source v).map .credentialsDir
  | .peerVerification => (Decode.peerVerification source v).map .peerVerification
  | .echoPolicy => (Decode.echoPolicy source v).map .echoPolicy
  | .accumulateLimit => (Decode.count source v).map .accumulateLimit
  | .idleTimeout => (Decode.seconds source v).map .idleTimeout
  | .backlog => (Decode.word32 source v).map .backlog

end ConfigField

/-! ## Whole configurations -/

namespace Setting

/-- The settings of fields with their values, or the mismatch of the first that has one. -/
def ofFields (source : Source) (fields : List (ConfigField × Value)) :
    Except Mismatch (List Setting) :=
  fields.mapM fun (f, v) => f.decode source v

/-- The entries whose keys are those of fields. -/
def recognised (entries : Entries) : List (ConfigField × Value) :=
  entries.filterMap fun (k, v) => (ConfigField.ofKey? k).map fun f => (f, v)

/-- The settings of a table. -/
def ofEntries (source : Source) (entries : Entries) : Except Mismatch (List Setting) :=
  ofFields source (recognised entries)

/-- The settings of a list with the fields in their fixed order. -/
def ofItems (items : List Value) : Except Mismatch (List Setting) := do
  let settings ← ofFields .value (ConfigField.all.zip items)
  if ConfigField.all.length < items.length then throw (.length items.length .fewer)
  return settings

/-- The settings of a value on its own. -/
def ofValue : Value → Except Mismatch (List Setting)
  | .table entries => ofEntries .value (Entries.sorted entries)
  | .array items | .tables items => ofItems items
  | v => .error (.kind (v.shape .value) .config)

end Setting

end TlsEcho
