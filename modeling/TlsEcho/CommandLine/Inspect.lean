import TlsEcho.Config.Load
import TlsEcho.Server.Error

/-! # Failures for inspection

The text of a failure that ends the program shows how the failure is made up: its kind, and inside
it what lies behind. -/

namespace TlsEcho

/-- A record for inspection: its name and its fields. -/
def inspectRecord (name : String) (fields : List (String × String)) : String :=
  name ++ " \x7b " ++ ", ".intercalate (fields.map fun f => f.1 ++ ": " ++ f.2) ++ " \x7d"

/-- A path for inspection.  A single quote in it gets a backslash, too. -/
def inspectPath (path : String) : String :=
  let chars := path.toList.flatMap fun c =>
    if c = '\'' then ['\\', '\''] else Text.quotedChar c
  String.ofList ('"' :: (chars ++ ['"']))

/-- A failure of the system for inspection. -/
def inspectSystem (code : Nat) (kind message : String) : String :=
  inspectRecord "Os" [("code", toString code), ("kind", kind), ("message", Text.quoted message)]

/-- A failure of a known kind with its text, for inspection. -/
def inspectError (kind message : String) : String :=
  inspectRecord "Error" [("kind", kind), ("message", Text.quoted message)]

/-- A file error for inspection. -/
def FileError.inspect : FileError → String
  | .notFound => inspectSystem 2 "NotFound" "No such file or directory"
  | .isDirectory => inspectSystem 21 "IsADirectory" "Is a directory"
  | .notADirectory => inspectSystem 20 "NotADirectory" "Not a directory"
  | .nameTooLong => inspectSystem 36 "InvalidFilename" "File name too long"
  | .nulInName => inspectError "InvalidInput" FileError.nulInName.message
  | .other text => inspectRecord "Custom" [("kind", "Other"), ("error", Text.quoted text)]

/-- A failure to load a configuration, for inspection. -/
def LoadError.inspect : LoadError → String
  | .unreadable e => "Io(" ++ e.inspect ++ ")"
  | .notText => "Io(" ++ inspectError "InvalidData" notTextMessage ++ ")"
  | .malformed => "Parse(" ++ inspectRecord "TomlError" [("message", Text.quoted "")] ++ ")"
  | .mismatch m => "Parse(" ++ inspectRecord "TomlError" [("message", Text.quoted m.message)] ++ ")"

/-- A fault in a file of credentials, for inspection. -/
def CredentialsFault.inspect : CredentialsFault → String
  | .file e => e.inspect
  | .pem e => inspectRecord "Custom" [("kind", "InvalidData"), ("error", Text.quoted e.message)]

/-- The reason for which credentials are no good, for inspection. -/
def RejectedCredentials.inspect : RejectedCredentials → String
  | .key => "General(" ++ Text.quoted "failed to parse private key as RSA, ECDSA, or EdDSA" ++ ")"
  | .certificate e => "InvalidCertificate(" ++ e.name ++ ")"
  | .mismatch => "InconsistentKeys(KeyMismatch)"

/-- A failure of the transport, for inspection. -/
def TransportError.inspect : TransportError → String
  | .credentials path fault =>
    inspectRecord "Credentials" [("path", inspectPath path), ("source", fault.inspect)]
  | .noCertificates path => "NoCertificates(" ++ inspectPath path ++ ")"
  | .noPrivateKey path => "NoPrivateKey(" ++ inspectPath path ++ ")"
  | .rejected reason => "Tls(" ++ reason.inspect ++ ")"
  | .handshake reason =>
    "Handshake(" ++ inspectRecord "Custom" [("kind", "Other"), ("error", Text.quoted reason)] ++ ")"

/-- A failure of a server, for inspection. -/
def ServerError.inspect : ServerError → String
  | .transport e => "Transport(" ++ e.inspect ++ ")"
  | .bind address reason =>
    inspectRecord "Bind" [("addr", address.render), ("source", Text.quoted reason)]
  | .workers reason => "Runtime(" ++ Text.quoted reason ++ ")"
  | .notRunning => "NotRunning"
  | .acceptLoop e => "Task(" ++ Text.quoted e.message ++ ")"

end TlsEcho
