import TlsEcho.Credentials.Certificate
import TlsEcho.Credentials.Pem
import TlsEcho.Files

/-! # Failures of the transport

Why connections cannot be secured: credentials that cannot be read or are no good, and handshakes
that fail. -/

namespace TlsEcho

/-- Why a file of credentials cannot be read. -/
inductive CredentialsFault
  | file (e : FileError)
  | pem (e : Pem.Error)
  deriving DecidableEq, Repr

/-- The text of the fault. -/
def CredentialsFault.message : CredentialsFault → String
  | .file e => e.message
  | .pem e => e.message

/-- Why certificates and a key that have been read are no good. -/
inductive RejectedCredentials
  /-- The key is of no kind that is supported. -/
  | key
  | certificate (e : Certificate.Error)
  /-- The certificate is for another key. -/
  | mismatch
  deriving DecidableEq, Repr

/-- The text for credentials that are no good. -/
def RejectedCredentials.message : RejectedCredentials → String
  | .key => "unexpected error: failed to parse private key as RSA, ECDSA, or EdDSA"
  | .certificate e => "invalid peer certificate: " ++ e.name
  | .mismatch => "keys may not be consistent: KeyMismatch"

/-- A failure of the transport. -/
inductive TransportError
  | credentials (path : String) (fault : CredentialsFault)
  | noCertificates (path : String)
  | noPrivateKey (path : String)
  | rejected (reason : RejectedCredentials)
  | handshake (reason : String)
  deriving DecidableEq, Repr

namespace TransportError

/-- The text of a failure. -/
def message : TransportError → String
  | credentials path fault => "failed to read " ++ path ++ ": " ++ fault.message
  | noCertificates path => "no certificate found in " ++ path
  | noPrivateKey path => "no private key found in " ++ path
  | rejected reason => "tls configuration rejected: " ++ reason.message
  | handshake reason => "handshake failed: " ++ reason

/-- The text of the failure behind a failure. -/
def cause : TransportError → Option String
  | credentials _ fault => some fault.message
  | noCertificates _ | noPrivateKey _ => none
  | rejected reason => some reason.message
  | handshake reason => some reason

end TransportError

end TlsEcho
