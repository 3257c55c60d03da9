import TlsEcho.Credentials.Modular
import TlsEcho.Credentials.Sha512

/-! # The Edwards curve

The curve `y^2 - x^2 = 1 + d x^2 y^2` modulo the prime `2^255 - 19`, with a base point.  A private
key is a seed of 32 bytes; its digest gives a number, and the public key is the multiple of the base
point by it. -/

namespace TlsEcho.Edwards

/-- The prime `2^255 - 19`. -/
def prime : Nat := 0x7fffffffffffffffffffffffffffffffffffffffffffffffffffffffffffffed

/-- The coefficient of the curve. -/
def d : Nat := 0x52036cee2b6ffe738cc740797779e89800700a4d4141d8ab75eb4dca135978a3

/-- A point in coordinates `(x / z, y / z)`; `t` is `x y / z`. -/
structure Point where
  x : Nat
  y : Nat
  z : Nat
  t : Nat

/-- The neutral point. -/
def Point.zero : Point := ⟨0, 1, 1, 0⟩

/-- The base point. -/
def Point.base : Point where
  x := 0x216936d3cd6e53fec0a4e231fdd6dc5c692cc7609525a7b2c9562d608f25d51a
  y := 0x6666666666666666666666666666666666666666666666666666666666666658
  z := 1
  t := 0x67875f0fd78b766566ea4e8e64abe37d20f09f80775152f56dde8ab3a5b7dda3

/-- The sum of two points, which may be the same. -/
def Point.add (p q : Point) : Point :=
  let m := prime
  let a := Modular.sub p.y p.x m * Modular.sub q.y q.x m % m
  let b := (p.y + p.x) * (q.y + q.x) % m
  let c := 2 * d * p.t % m * q.t % m
  let f := 2 * p.z * q.z % m
  let e := Modular.sub b a m
  let g := f + c
  let h := a + b
  let f := Modular.sub f c m
  ⟨e * f % m, g * h % m, f * g % m, e * h % m⟩

/-- A multiple of a point. -/
def Point.multiple (k : Nat) (p : Point) : Point :=
  if k = 0 then .zero
  else
    let half := p.multiple (k / 2)
    let even := half.add half
    if k % 2 = 1 then even.add p else even
termination_by k
decreasing_by omega

/-- How many bytes a seed and a public key have. -/
def width : Nat := 32

/-- The natural number of bytes, least significant first. -/
def natOfBytes (b : Bytes) : Nat := b.foldr (fun x n => n * 256 + x.toNat) 0

/-- The first `count` bytes of a number, least significant first. -/
def bytesOfNat : (count : Nat) → (n : Nat) → Bytes
  | 0, _ => []
  | count + 1, n => UInt8.ofNat (n % 256) :: bytesOfNat count (n / 256)

/-- A point in 32 bytes: `y`, and whether `x` is odd in the bit that is left. -/
def Point.bytes (p : Point) : Bytes :=
  let inverse := Modular.inverse p.z prime
  let x := p.x * inverse % prime
  let y := p.y * inverse % prime
  bytesOfNat width (y + x % 2 * Nat.pow 2 255)

/-- The number that a seed gives: the first half of its digest, as a multiple of eight of 255
    bits. -/
def secret (seed : Bytes) : Nat :=
  let n := natOfBytes ((Sha512.digest seed).take width)
  Nat.pow 2 254 + n % Nat.pow 2 254 / 8 * 8

/-- The public key for a seed. -/
def publicKey (seed : Bytes) : Bytes := (Point.base.multiple (secret seed)).bytes

end TlsEcho.Edwards
