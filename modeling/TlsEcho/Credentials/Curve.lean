import TlsEcho.Credentials.Modular

/-! # Elliptic curves

The curves `y^2 = x^3 - 3 x + b` over the integers modulo a prime, with a base point.  A private
key is a number, and the public key the multiple of the base point by it. -/

namespace TlsEcho

/-- A curve with a base point of prime order. -/
structure Curve where
  /-- The bytes of a coordinate. -/
  width : Nat
  prime : Nat
  b : Nat
  order : Nat
  base : Nat × Nat

namespace Curve

/-- The curve over a field of 256 bits. -/
def p256 : Curve where
  width := 32
  prime := 0xffffffff00000001000000000000000000000000ffffffffffffffffffffffff
  b := 0x5ac635d8aa3a93e7b3ebbd55769886bc651d06b0cc53b0f63bce3c3e27d2604b
  order := 0xffffffff00000000ffffffffffffffffbce6faada7179e84f3b9cac2fc632551
  base :=
    (0x6b17d1f2e12c4247f8bce6e563a440f277037d812deb33a0f4a13945d898c296,
     0x4fe342e2fe1a7f9b8ee7eb4a7c0f9e162bce33576b315ececbb6406837bf51f5)

/-- The curve over a field of 384 bits. -/
def p384 : Curve where
  width := 48
  prime := 0xfffffffffffffffffffffffffffffffffffffffffffffffffffffffffffffffeffffffff0000000000000000ffffffff
  b := 0xb3312fa7e23ee7e4988e056be3f82d19181d9c6efe8141120314088f5013875ac656398d8a2ed19d2a85c8edd3ec2aef
  order := 0xffffffffffffffffffffffffffffffffffffffffffffffffc7634d81f4372ddf581a0db248b0a77aecec196accc52973
  base :=
    (0xaa87ca22be8b05378eb1c71ef320ad746e1d3b628ba79b9859f741e082542a385502f25dbf55296c3a545e3872760ab7,
     0x3617de4a96262c6f5d9e98bf9292dc29f8f41dbd289a147ce9da3113b5f0b8c00a60b1ce1d7e819d7a431d7c90ea0e5f)

/-- A point in coordinates `(x / z ^ 2, y / z ^ 3)`; at infinity if `z` is zero. -/
structure Point where
  x : Nat
  y : Nat
  z : Nat

/-- The point at infinity. -/
def Point.infinity : Point := ⟨1, 1, 0⟩

/-- A difference modulo the prime. -/
def sub (c : Curve) (x y : Nat) : Nat := Modular.sub x y c.prime

/-- Twice a point. -/
def double (c : Curve) (p : Point) : Point :=
  let m := c.prime
  if p.z = 0 ∨ p.y = 0 then .infinity
  else
    let zz := p.z * p.z % m
    let yy := p.y * p.y % m
    let s := 4 * p.x * yy % m
    let slope := 3 * (c.sub p.x zz) * (p.x + zz) % m
    let x := c.sub (slope * slope) (2 * s)
    let y := c.sub (slope * (c.sub s x)) (8 * (yy * yy % m))
    ⟨x, y, 2 * p.y * p.z % m⟩

/-- The sum of two points. -/
def add (c : Curve) (p q : Point) : Point :=
  let m := c.prime
  if p.z = 0 then q
  else if q.z = 0 then p
  else
    let pz := p.z * p.z % m
    let qz := q.z * q.z % m
    let u := p.x * qz % m
    let v := q.x * pz % m
    let s := p.y * qz % m * q.z % m
    let t := q.y * pz % m * p.z % m
    if u = v then
      if s = t then c.double p else .infinity
    else
      let h := c.sub v u
      let r := c.sub t s
      let hh := h * h % m
      let hhh := hh * h % m
      let w := u * hh % m
      let x := c.sub (c.sub (r * r) hhh) (2 * w)
      let y := c.sub (r * (c.sub w x)) (s * hhh)
      ⟨x, y, h * p.z % m * q.z % m⟩

/-- A multiple of a point. -/
def multiple (c : Curve) (k : Nat) (p : Point) : Point :=
  if k = 0 then .infinity
  else
    let even := c.double (c.multiple (k / 2) p)
    if k % 2 = 1 then c.add even p else even
termination_by k
decreasing_by omega

/-- The coordinates of the public key for a private one. -/
def publicPoint (c : Curve) (secret : Nat) : Nat × Nat :=
  let p := c.multiple secret ⟨c.base.1, c.base.2, 1⟩
  let zInverse := Modular.inverse p.z c.prime
  let zz := zInverse * zInverse % c.prime
  (p.x * zz % c.prime, p.y * zz % c.prime * zInverse % c.prime)

end Curve

end TlsEcho
