import TlsEcho.Config.Basic
import TlsEcho.Credentials.Certificate
import TlsEcho.Credentials.PrivateKey
import TlsEcho.Transport.Error

/-! # Loading credentials

A server proves itself with a chain of certificates and the private key of the first of them.  If
clients have to prove themselves too, it also reads the certificates of the authorities that it
trusts.  Files are read in the order certificates, key, authorities, and only then it is seen
whether the key is that of the certificate. -/

namespace TlsEcho

/-- What a server proves itself with, and what it asks of clients. -/
structure Credentials where
  /-- The chain of certificates; the first one is the server's own. -/
  chain : List Bytes
  key : PrivateKey
  /-- The authorities that clients' certificates have to come from; none if nothing is asked. -/
  authorities : Option (List Certificate)
  deriving DecidableEq

namespace Credentials

/-- The name of the file of certificates in a directory of credentials. -/
def certificateFile : String := "certificate.pem"

/-- The name of the file of the private key in a directory of credentials. -/
def privateKeyFile : String := "private_key.pem"

/-- Reads a file of credentials. -/
def readFile (files : Files) (path : String) : Except TransportError Bytes :=
  (files path).mapError fun e => .credentials path (.file e)

/-- The certificates of a file, of which there is at least one. -/
def loadCertificates (files : Files) (path : String) : Except TransportError (List Bytes) := do
  let (sections, fault) := Pem.sections (← readFile files path)
  if let some e := fault then throw (.credentials path (.pem e))
  let certificates := (sections.filter (·.kind = .certificate)).map (·.content)
  if certificates.isEmpty then throw (.noCertificates path)
  return certificates

/-- The form of the key that a section of a given kind holds, if it holds one. -/
def keyForm? : Pem.Kind → Option KeyForm
  | .privateKey => some .wrapped
  | .rsaPrivateKey => some .rsa
  | .ecPrivateKey => some .curve
  | _ => none

/-- The first key of a file.  What follows it is not looked at. -/
def loadKey (files : Files) (path : String) : Except TransportError (KeyForm × Bytes) := do
  let (sections, fault) := Pem.sections (← readFile files path)
  match sections.findSome? fun s => (keyForm? s.kind).map fun form => (form, s.content) with
  | some key => return key
  | none =>
    match fault with
    | some e => throw (.credentials path (.pem e))
    | none => throw (.noPrivateKey path)

/-- The trusted authorities of a file. -/
def loadAuthorities (files : Files) (path : String) :
    Except TransportError (List Certificate) := do
  let certificates ← loadCertificates files path
  certificates.mapM fun der =>
    (Certificate.ofAuthority der).mapError fun e => .rejected (.certificate e)

/-- The certificate of a server itself. -/
def ownCertificate (chain : List Bytes) : Except Certificate.Error Certificate :=
  (Certificate.require chain.head?).bind Certificate.ofDer

/-- Puts a chain of certificates and a key together. -/
def pair (chain : List Bytes) (key : KeyForm × Bytes) (authorities : Option (List Certificate)) :
    Except TransportError Credentials :=
  match PrivateKey.ofDer? key.1 key.2 with
  | none => .error (.rejected .key)
  | some key =>
    match ownCertificate chain with
    | .error e => .error (.rejected (.certificate e))
    | .ok own =>
      if own.publicKey = key.publicKey then .ok { chain, key, authorities }
      else .error (.rejected .mismatch)

/-- Loads credentials from a file of certificates and a file of a key. -/
def load (files : Files) (certificatePath keyPath : String) (verification : PeerVerification) :
    Except TransportError Credentials := do
  let chain ← loadCertificates files certificatePath
  let key ← loadKey files keyPath
  let authorities ← match verification with
    | .none => .ok none
    | .required caFile => (loadAuthorities files caFile).map some
  pair chain key authorities

/-- The file of certificates in a directory. -/
def certificatePath (dir : String) : String := pathIn dir certificateFile

/-- Loads credentials from a directory. -/
def loadFrom (files : Files) (dir : String) (verification : PeerVerification) :
    Except TransportError Credentials :=
  load files (certificatePath dir) (pathIn dir privateKeyFile) verification

/-- What loading credentials reports. -/
def loadLog (certificatePath : String) (verification : PeerVerification) : List Log.Record :=
  [⟨.info, "moat_transport::tls", "TLS credentials loaded",
    [⟨"cert", certificatePath⟩, ⟨"client_auth", toString (verification != .none)⟩]⟩]

end Credentials

end TlsEcho
