import TlsEcho.Credentials.Der

/-! # Certificates

A certificate is read only as far as it takes to know that it is well formed and which public key
it is for.  Signatures and validity are not looked at. -/

namespace TlsEcho

/-- A certificate. -/
structure Certificate where
  /-- The public key with its algorithm, as the certificate gives it. -/
  publicKey : Bytes
  deriving DecidableEq, Repr

namespace Certificate

open Der

/-! ## Errors -/

/-- Why a certificate is refused. -/
inductive Error
  /-- It is not well formed. -/
  | badEncoding
  | unsupportedVersion
  /-- The algorithm of the signature is not the one that has been signed. -/
  | algorithmMismatch
  /-- An extension is critical and not understood. -/
  | unsupportedExtension
  /-- An extension occurs twice. -/
  | repeatedExtension
  deriving DecidableEq, Repr

/-- The name of an error. -/
def Error.name : Error → String
  | .badEncoding => "BadEncoding"
  | .unsupportedVersion => "Other(OtherError(UnsupportedCertVersion))"
  | .algorithmMismatch => "Other(OtherError(SignatureAlgorithmMismatch))"
  | .unsupportedExtension => "Other(OtherError(UnsupportedCriticalExtension))"
  | .repeatedExtension => "Other(OtherError(ExtensionValueInvalid))"

/-- A part that has to be there. -/
def require (part : Option α) : Except Error α :=
  match part with
  | some x => .ok x
  | none => .error .badEncoding

/-! ## Extensions -/

/-- The identifiers of extensions all start with these bytes. -/
def extensionArc : Bytes := [0x55, 0x1D]

/-- What the extensions that are understood say; each is told by the last byte of its
    identifier. -/
inductive ExtensionKind
  | keyUsage | otherNames | basicConstraints | nameConstraints | revocationLists | keyPurposes
  deriving DecidableEq, Repr

/-- All kinds. -/
def ExtensionKind.all : List ExtensionKind :=
  [keyUsage, otherNames, basicConstraints, nameConstraints, revocationLists, keyPurposes]

/-- The last byte of the identifier of a kind. -/
def ExtensionKind.number : ExtensionKind → UInt8
  | keyUsage => 15
  | otherNames => 17
  | basicConstraints => 19
  | nameConstraints => 30
  | revocationLists => 31
  | keyPurposes => 37

/-- The kind of extensions with an identifier, if they are understood. -/
def ExtensionKind.ofIdentifier? (identifier : Bytes) : Option ExtensionKind :=
  all.find? fun kind => extensionArc ++ [kind.number] = identifier

/-- Whether a value of a kind is well formed.  The use of the key may be anything, all else is one
    sequence. -/
def ExtensionKind.isValue (kind : ExtensionKind) (value : Bytes) : Bool :=
  kind = keyUsage || (only? sequenceTag value).isSome

/-- An extension. -/
structure Extension where
  identifier : Bytes
  isCritical : Bool
  value : Bytes
  deriving DecidableEq, Repr

/-- Reads whether an extension is critical; it is not unless it says so. -/
def critical? (b : Bytes) : Option (Bool × Bytes) :=
  (optional? booleanTag b).bind fun
    | (none, rest) => some (false, rest)
    | (some [0xFF], rest) => some (true, rest)
    | (some [0x00], rest) => some (false, rest)
    | _ => none

/-- Reads an extension. -/
def extension? (b : Bytes) : Option (Extension × Bytes) := do
  let (body, rest) ← content? sequenceTag b
  let (identifier, body) ← content? identifierTag body
  let (isCritical, body) ← critical? body
  let value ← only? bytesTag body
  return ({ identifier, isCritical, value }, rest)

/-- Adds an extension to the kinds that have been met. -/
def meet (met : List ExtensionKind) (e : Extension) : Except Error (List ExtensionKind) :=
  match ExtensionKind.ofIdentifier? e.identifier with
  | none => if e.isCritical then .error .unsupportedExtension else .ok met
  | some kind =>
    if kind ∈ met then .error .repeatedExtension
    else if kind.isValue e.value then .ok (kind :: met)
    else .error .badEncoding

/-- Reads at most `fuel` extensions after those that have been met. -/
def extensions : (fuel : Nat) → (met : List ExtensionKind) → Bytes → Except Error Unit
  | _, _, [] => .ok ()
  | 0, _, _ => .error .badEncoding
  | fuel + 1, met, b => do
    let (e, rest) ← require (extension? b)
    extensions fuel (← meet met e) rest

/-! ## Certificates -/

/-- The version that is accepted. -/
def version : Nat := 2

/-- A version has one byte. -/
def versionBound : Nat := 256

/-- Only certificates whose content is shorter than this are read. -/
def lengthBound : Nat := 65535

/-- The parts of a certificate: what is signed, and the algorithm of the signature. -/
def parts? (der : Bytes) : Option (Bytes × Bytes) := do
  let body ← only? sequenceTag der
  let (signed, rest) ← content? sequenceTag body
  let (algorithm, rest) ← content? sequenceTag rest
  let (_, rest) ← wholeBits? rest
  if rest ≠ [] ∨ lengthBound ≤ body.length then none else return (signed, algorithm)

/-- Reads the version. -/
def readVersion (b : Bytes) : Except Error Bytes :=
  match content? (fieldTag 0) b with
  | none => .error .unsupportedVersion
  | some (tagged, rest) => do
    let (v, more) ← require (natural? tagged)
    if versionBound ≤ v then throw .badEncoding
    if v ≠ version ∨ more ≠ [] then throw .unsupportedVersion
    return rest

/-- Reads what names the subject and the time of a certificate and then its public key. -/
def subjectKey? (b : Bytes) : Option (Certificate × Bytes) := do
  let (_, b) ← content? sequenceTag b
  let (_, b) ← content? sequenceTag b
  let (_, b) ← content? sequenceTag b
  let (publicKey, b) ← content? sequenceTag b
  return (⟨encode sequenceTag publicKey⟩, b)

/-- Reads the list of extensions that may end the signed part. -/
def extensionList? (b : Bytes) : Option Bytes :=
  if b = [] then some []
  else (only? (fieldTag 3) b).bind (only? sequenceTag)

/-- Reads the part of a certificate that is signed, given the algorithm of the signature. -/
def signedPart (algorithm : Bytes) (b : Bytes) : Except Error Certificate := do
  let b ← readVersion b
  let (_, b) ← require (content? integerTag b)
  let (inner, b) ← require (content? sequenceTag b)
  if inner ≠ algorithm then throw .algorithmMismatch
  let (certificate, b) ← require (subjectKey? b)
  let list ← require (extensionList? b)
  extensions list.length [] list
  return certificate

/-- Reads a certificate. -/
def ofDer (der : Bytes) : Except Error Certificate := do
  let (signed, algorithm) ← require (parts? der)
  signedPart algorithm signed

/-- Reads a certificate of the first version, which has neither a version nor extensions. -/
def firstVersion? (der : Bytes) : Option Certificate := do
  let (b, _) ← parts? der
  let (_, b) ← content? integerTag b
  let (_, b) ← content? sequenceTag b
  let (certificate, b) ← subjectKey? b
  if b = [] then return certificate else none

/-- Reads the certificate of a trusted authority, which may be one of the first version. -/
def ofAuthority (der : Bytes) : Except Error Certificate :=
  match ofDer der with
  | .error .unsupportedVersion => require (firstVersion? der)
  | answer => answer

end Certificate

end TlsEcho
