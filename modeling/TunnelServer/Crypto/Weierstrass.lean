import TunnelServer.Crypto.Modular
import TunnelServer.Wire.Integer

/-! # Curves in the short form

The points of a curve `y² = x³ + ax + b` over a prime, with one point at infinity, are added by
drawing the line through them. The public half of a private number is that multiple of a base point,
and it is written as both coordinates.
-/

namespace TunnelServer.Weierstrass

open TunnelServer.Modular

inductive Point where
  | infinity
  | affine (x y : Nat)
deriving DecidableEq, Repr

/-- A curve with a base point, whose multiples repeat after `order` of them. Numbers are written
with `size` bytes. -/
structure Curve where
  prime : Nat
  a : Nat
  b : Nat
  order : Nat
  baseX : Nat
  baseY : Nat
  size : Nat
deriving DecidableEq, Repr

namespace Curve

/-- The third point on the line through two points with this slope, mirrored. -/
def onLine (curve : Curve) (slope x₁ y₁ x₂ : Nat) : Point :=
  let x := subtract curve.prime (slope * slope) (x₁ + x₂)
  .affine x (subtract curve.prime (slope * subtract curve.prime x₁ x) y₁)

def add (curve : Curve) : Point → Point → Point
  | .infinity, q => q
  | p, .infinity => p
  | .affine x₁ y₁, .affine x₂ y₂ =>
    if x₁ ≠ x₂ then
      let rise := subtract curve.prime y₂ y₁
      let run := subtract curve.prime x₂ x₁
      curve.onLine (divide curve.prime rise run) x₁ y₁ x₂
    else if y₁ = y₂ ∧ y₁ ≠ 0 then
      curve.onLine (divide curve.prime (3 * x₁ * x₁ + curve.a) (2 * y₁)) x₁ y₁ x₁
    else .infinity

def multiple (curve : Curve) (n : Nat) (p : Point) : Point :=
  if n = 0 then .infinity
  else
    let even := curve.multiple (n / 2) (curve.add p p)
    if n % 2 = 0 then even else curve.add even p
termination_by n

def publicPoint (curve : Curve) (secret : Nat) : Point :=
  curve.multiple secret (.affine curve.baseX curve.baseY)

/-- A point as bytes: a mark, and both coordinates. Infinity has no written form. -/
def encode? (curve : Curve) : Point → Option (List UInt8)
  | .infinity => none
  | .affine x y => some (4 :: Wire.toBigEndian curve.size x ++ Wire.toBigEndian curve.size y)

/-- The public half of a private number that was written as bytes: these are as many as the curve
has it, and the number is below the order and not zero. -/
def publicKey? (curve : Curve) (secret : List UInt8) : Option (List UInt8) :=
  let number := Wire.ofBigEndian secret
  if secret.length = curve.size ∧ 0 < number ∧ number < curve.order then
    curve.encode? (curve.publicPoint number)
  else none

def p256 : Curve where
  prime := 0xffffffff00000001000000000000000000000000ffffffffffffffffffffffff
  a := 0xffffffff00000001000000000000000000000000fffffffffffffffffffffffc
  b := 0x5ac635d8aa3a93e7b3ebbd55769886bc651d06b0cc53b0f63bce3c3e27d2604b
  order := 0xffffffff00000000ffffffffffffffffbce6faada7179e84f3b9cac2fc632551
  baseX := 0x6b17d1f2e12c4247f8bce6e563a440f277037d812deb33a0f4a13945d898c296
  baseY := 0x4fe342e2fe1a7f9b8ee7eb4a7c0f9e162bce33576b315ececbb6406837bf51f5
  size := 32

def p384 : Curve where
  prime :=
    0xfffffffffffffffffffffffffffffffffffffffffffffffffffffffffffffffeffffffff0000000000000000ffffffff
  a :=
    0xfffffffffffffffffffffffffffffffffffffffffffffffffffffffffffffffeffffffff0000000000000000fffffffc
  b :=
    0xb3312fa7e23ee7e4988e056be3f82d19181d9c6efe8141120314088f5013875ac656398d8a2ed19d2a85c8edd3ec2aef
  order :=
    0xffffffffffffffffffffffffffffffffffffffffffffffffc7634d81f4372ddf581a0db248b0a77aecec196accc52973
  baseX :=
    0xaa87ca22be8b05378eb1c71ef320ad746e1d3b628ba79b9859f741e082542a385502f25dbf55296c3a545e3872760ab7
  baseY :=
    0x3617de4a96262c6f5d9e98bf9292dc29f8f41dbd289a147ce9da3113b5f0b8c00a60b1ce1d7e819d7a431d7c90ea0e5f
  size := 48

end Curve

end TunnelServer.Weierstrass
