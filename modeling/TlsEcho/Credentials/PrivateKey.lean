import TlsEcho.Credentials.Curve
import TlsEcho.Credentials.Der
import TlsEcho.Credentials.Edwards

/-! # Private keys

A private key is that of an RSA pair, of a pair on an elliptic curve, or a seed for the Edwards
curve.  It is written on its own or wrapped together with the name of its algorithm; a seed is
always wrapped.  Keys whose numbers do not belong together are
refused.  From a key its public key follows, in the form in which certificates give it. -/

namespace TlsEcho

open Der

/-! ## Wrapping -/

/-- What stands around a key. -/
inductive KeyForm
  /-- The name of an algorithm. -/
  | wrapped
  /-- Nothing; the key is one of an RSA pair. -/
  | rsa
  /-- Nothing; the key is one on an elliptic curve. -/
  | curve
  deriving DecidableEq, Repr

/-- A key with the name of its algorithm. -/
structure WrappedKey where
  algorithm : Bytes
  key : Bytes
  /-- The public key, which the second version gives along. -/
  publicKey : Option Bytes
  deriving DecidableEq, Repr

/-- Reads the public key that a wrapped key gives along.  It takes the place of a string of bits,
    or stands around one. -/
def wrappedPublicKey? (b : Bytes) : Option Bytes :=
  let found :=
    if b.head? = some (fieldTag 1) then (only? (fieldTag 1) b).bind wholeBits?
    else taggedBits? (implicitTag 1) b
  found.bind fun (publicKey, rest) => if rest = [] then some publicKey else none

/-- Reads a wrapped key.  A version that is not known is refused. -/
def unwrapKey? (der : Bytes) : Option WrappedKey := do
  let b ← only? sequenceTag der
  let (v, b) ← natural? b
  let (algorithm, b) ← content? sequenceTag b
  let (key, b) ← content? bytesTag b
  let (_, b) ← optional? (fieldTag 0) b
  match v with
  | 0 => if b = [] then return { algorithm, key, publicKey := none } else none
  | 1 => return { algorithm, key, publicKey := ← wrappedPublicKey? b }
  | _ => none

/-- The key in a wrapped key of the first version that names the given algorithm. -/
def unwrapAs? (algorithm der : Bytes) : Option Bytes :=
  (unwrapKey? der).bind fun w =>
    if w.algorithm = algorithm ∧ w.publicKey = none then some w.key else none

/-- A public key with its algorithm, as certificates give it. -/
def publicKeyInfo (algorithm key : Bytes) : Bytes :=
  encode sequenceTag (encode sequenceTag algorithm ++ encode bitsTag (0 :: key))

/-! ## RSA keys -/

/-- The private key of an RSA pair. -/
structure RsaKey where
  modulus : Nat
  publicExponent : Nat
  privateExponent : Nat
  firstPrime : Nat
  secondPrime : Nat
  firstExponent : Nat
  secondExponent : Nat
  coefficient : Nat
  deriving DecidableEq, Repr

namespace RsaKey

/-- The name of the algorithm. -/
def algorithm : Bytes :=
  [0x06, 0x09, 0x2A, 0x86, 0x48, 0x86, 0xF7, 0x0D, 0x01, 0x01, 0x01, 0x05, 0x00]

/-- How many bits a number has. -/
def bitLength (n : Nat) : Nat := if n = 0 then 0 else n.log2 + 1

/-- The number of bits of a prime that are supported come in steps. -/
def primeBitStep : Nat := 512

/-- Whether the numbers of a key belong together and are of the sizes that are supported: a
    modulus of 2048 to 4096 bits, or one less, and two primes of half as many bits. -/
def isConsistent (k : RsaKey) : Bool :=
  let bits := bitLength k.modulus
  let half := (bits + 1) / 2
  2048 ≤ (bits + 7) / 8 * 8 && bits ≤ 4096 && half % primeBitStep = 0
    && 65537 ≤ k.publicExponent && k.publicExponent < 8589934592 && k.publicExponent % 2 = 1
    && bitLength k.firstPrime = half && k.firstPrime % 2 = 1
    && bitLength k.secondPrime = half && k.secondPrime % 2 = 1
    && k.modulus % 2 = 1 && k.firstPrime * k.secondPrime % k.modulus = 0
    && half < bitLength k.privateExponent && k.privateExponent < k.modulus
    && k.privateExponent % 2 = 1
    && k.firstExponent < k.firstPrime && k.firstExponent % 2 = 1
    && k.secondExponent < k.secondPrime && k.secondExponent % 2 = 1
    && k.coefficient < k.firstPrime
    && k.coefficient * k.secondPrime % k.firstPrime = 1

/-- Reads the numbers of a key. -/
def numbers? (der : Bytes) : Option RsaKey := do
  let b ← only? sequenceTag der
  let (v, b) ← natural? b
  if v ≠ 0 then none
  let (modulus, b) ← natural? b
  let (publicExponent, b) ← natural? b
  let (privateExponent, b) ← natural? b
  let (firstPrime, b) ← natural? b
  let (secondPrime, b) ← natural? b
  let (firstExponent, b) ← natural? b
  let (secondExponent, b) ← natural? b
  let (coefficient, b) ← natural? b
  if b ≠ [] then none
  return { modulus, publicExponent, privateExponent, firstPrime, secondPrime, firstExponent,
           secondExponent, coefficient }

/-- Reads a key. -/
def ofDer? (der : Bytes) : Option RsaKey := (numbers? der).filter isConsistent

/-- The public key. -/
def publicKey (k : RsaKey) : Bytes :=
  publicKeyInfo algorithm
    (encode sequenceTag (encodeNatural k.modulus ++ encodeNatural k.publicExponent))

end RsaKey

/-! ## Keys on elliptic curves -/

/-- The curves that are supported. -/
inductive CurveName
  | p256 | p384
  deriving DecidableEq, Repr

namespace CurveName

/-- The curve with a name. -/
def curve : CurveName → Curve
  | p256 => .p256
  | p384 => .p384

/-- The identifier of a curve. -/
def identifier : CurveName → Bytes
  | p256 => encode identifierTag [0x2A, 0x86, 0x48, 0xCE, 0x3D, 0x03, 0x01, 0x07]
  | p384 => encode identifierTag [0x2B, 0x81, 0x04, 0x00, 0x22]

/-- The name of the algorithm. -/
def algorithm (c : CurveName) : Bytes :=
  encode identifierTag [0x2A, 0x86, 0x48, 0xCE, 0x3D, 0x02, 0x01] ++ c.identifier

/-- A number in so many bytes. -/
def fixedBytes (width n : Nat) : Bytes :=
  let b := minimalBytes n
  List.replicate (width - b.length) 0 ++ b

/-- The public key for a private one: both coordinates in full. -/
def publicPoint (c : CurveName) (secret : Nat) : Bytes :=
  let (x, y) := c.curve.publicPoint secret
  0x04 :: (fixedBytes c.curve.width x ++ fixedBytes c.curve.width y)

/-- Reads a key that gives its public key along, which is the answer. -/
def ofDer? (c : CurveName) (der : Bytes) : Option Bytes := do
  let b ← only? sequenceTag der
  let (v, b) ← natural? b
  if v ≠ 1 then none
  let (secretBytes, b) ← content? bytesTag b
  let (parameters, b) ← optional? (fieldTag 0) b
  if parameters.isSome ∧ parameters ≠ some c.identifier then none
  let (point, rest) ← wholeBits? (← only? (fieldTag 1) b)
  let secret := natOfBytes secretBytes
  if rest ≠ [] ∨ secretBytes.length ≠ c.curve.width then none
  if secret = 0 ∨ c.curve.order ≤ secret then none
  if point = c.publicPoint secret then return point else none

/-- The public key as certificates give it. -/
def publicKey (c : CurveName) (point : Bytes) : Bytes := publicKeyInfo c.algorithm point

/-- Reads a key of either form. -/
def ofKey? (c : CurveName) (form : KeyForm) (der : Bytes) : Option Bytes :=
  match form with
  | .rsa => none
  | .curve => c.ofDer? der
  | .wrapped => (unwrapAs? c.algorithm der).bind c.ofDer?

end CurveName

/-! ## Keys on the Edwards curve -/

namespace Edwards

/-- The name of the algorithm. -/
def algorithm : Bytes := encode identifierTag [0x2B, 0x65, 0x70]

/-- Reads a wrapped seed.  The answer is the public key, and one that is given along has to be
    the same. -/
def ofDer? (der : Bytes) : Option Bytes := do
  let w ← unwrapKey? der
  let seed ← only? bytesTag w.key
  if w.algorithm ≠ algorithm ∨ seed.length ≠ width then none
  let derived := publicKey seed
  if w.publicKey.getD derived = derived then return derived else none

end Edwards

/-! ## Keys of any kind -/

/-- A private key, known by its public key as certificates give it. -/
structure PrivateKey where
  publicKey : Bytes
  deriving DecidableEq, Repr

namespace PrivateKey

/-- Reads an RSA key of either form. -/
def rsa? (form : KeyForm) (der : Bytes) : Option RsaKey :=
  match form with
  | .rsa => RsaKey.ofDer? der
  | .wrapped => (unwrapAs? RsaKey.algorithm der).bind RsaKey.ofDer?
  | .curve => none

/-- Reads a key on one of the curves. -/
def onCurve? (form : KeyForm) (der : Bytes) : Option PrivateKey :=
  [CurveName.p256, .p384].findSome? fun c =>
    (c.ofKey? form der).map fun point => ⟨c.publicKey point⟩

/-- Reads a seed for the Edwards curve. -/
def onEdwards? (form : KeyForm) (der : Bytes) : Option PrivateKey :=
  match form with
  | .wrapped => (Edwards.ofDer? der).map fun key => ⟨publicKeyInfo Edwards.algorithm key⟩
  | .rsa | .curve => none

/-- Reads a key. -/
def ofDer? (form : KeyForm) (der : Bytes) : Option PrivateKey :=
  ((rsa? form der).map fun k => ⟨k.publicKey⟩) <|> onCurve? form der <|> onEdwards? form der

end PrivateKey

end TlsEcho
