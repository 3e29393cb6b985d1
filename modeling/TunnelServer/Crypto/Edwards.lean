import TunnelServer.Crypto.Modular
import TunnelServer.Crypto.Sha512
import TunnelServer.Wire.Integer

/-! # Keys on the twisted curve of 255 bits

The points of `-x² + y² = 1 + dx²y²` modulo `2²⁵⁵ - 19` are added by one formula that has no
exceptions. A private key is a seed of 32 bytes; half of its digest, with some bits fixed, is the
multiple of the base point that makes the public key, of which `y` and the lowest bit of `x` are
written.
-/

namespace TunnelServer.Edwards

open TunnelServer.Modular

def prime : Nat := 0x7fffffffffffffffffffffffffffffffffffffffffffffffffffffffffffffed

def shape : Nat := divide prime (prime - 121665) 121666

structure Point where
  x : Nat
  y : Nat
deriving DecidableEq, Repr

def add (p q : Point) : Point :=
  let across := p.x * q.x % prime * (p.y * q.y % prime) % prime * shape % prime
  ⟨divide prime (p.x * q.y + p.y * q.x) (1 + across),
    divide prime (p.y * q.y + p.x * q.x) (subtract prime 1 across)⟩

def multiple (n : Nat) (p : Point) : Point :=
  if n = 0 then ⟨0, 1⟩
  else
    let even := multiple (n / 2) (add p p)
    if n % 2 = 0 then even else add even p
termination_by n

def base : Point where
  x := 0x216936d3cd6e53fec0a4e231fdd6dc5c692cc7609525a7b2c9562d608f25d51a
  y := 0x6666666666666666666666666666666666666666666666666666666666666658

/-- The multiple that a seed stands for: the lowest three bits of half its digest are cleared, and
the highest of 255 is set. -/
def scalar (seed : List UInt8) : Nat :=
  let half := Wire.ofBigEndian ((Sha512.digest seed).take 32).reverse
  let highest := 1 <<< 254
  highest + half % highest / 8 * 8

/-- A point as bytes, the least significant first. -/
def encode (p : Point) : List UInt8 := (Wire.toBigEndian 32 (p.y + (p.x % 2) <<< 255)).reverse

def publicKey? (seed : List UInt8) : Option (List UInt8) :=
  if seed.length = 32 then some (encode (multiple (scalar seed) base)) else none

end TunnelServer.Edwards
