import TunnelServer.Text.Numeral
import TunnelServer.Text.Split
import TunnelServer.Wire.Integer

/-! # IPv4 addresses

An address is written as four decimal octets with dots between them. Reading is strict: each octet
has at most three digits and no leading zero, so an address has one written form. Hosts may also be
given in a loose numeric form, with one to four parts in decimal, octal or hexadecimal, of which the
last fills all the octets that are left.
-/

namespace TunnelServer

structure V4 where
  a : UInt8
  b : UInt8
  c : UInt8
  d : UInt8
deriving DecidableEq, Repr

namespace V4

def octets (address : V4) : List UInt8 := [address.a, address.b, address.c, address.d]

def toNat (address : V4) : Nat :=
  ((address.a.toNat * 256 + address.b.toNat) * 256 + address.c.toNat) * 256 + address.d.toNat

/-- The address that is the lowest 32 bits of a number. -/
def ofNat (n : Nat) : V4 :=
  ⟨UInt8.ofNat (n / 16777216), UInt8.ofNat (n / 65536), UInt8.ofNat (n / 256), UInt8.ofNat n⟩

/-- The addresses 127.0.0.0 to 127.255.255.255. -/
def isLoopback (address : V4) : Bool := address.a = 127

def characters (address : V4) : List Char :=
  Text.joinWith '.' (address.octets.map fun octet => Numeral.digits 10 octet.toNat)

def render (address : V4) : String := String.ofList address.characters

/-- An octet in its only form. -/
def readOctet? (digits : List Char) : Option UInt8 := do
  guard (digits.length ≤ 3)
  guard (digits.length ≤ 1 ∨ digits.head? ≠ some '0')
  let value ← Numeral.read? 10 digits
  guard (value < 256)
  return UInt8.ofNat value

def read? (text : List Char) : Option V4 :=
  match (Text.splitOn '.' text).mapM readOctet? with
  | some [a, b, c, d] => some ⟨a, b, c, d⟩
  | _ => none

/-! ## The loose numeric form -/

/-- One part: hexadecimal after `0x`, octal after `0`, else decimal. -/
def readPart? : List Char → Option Nat
  | '0' :: 'x' :: digits | '0' :: 'X' :: digits => Numeral.read? 16 digits
  | '0' :: digits => Numeral.read? 8 ('0' :: digits)
  | digits => Numeral.read? 10 digits

/-- Combines parts: each but the last is one octet, and the last fills the octets that are left.
The first argument is how many octets are left, the second what stands before them. -/
def combineParts? : Nat → Nat → List Nat → Option Nat
  | _, _, [] => none
  | left, value, [last] =>
    if last < Wire.span left then some (value * Wire.span left + last) else none
  | left, value, octet :: parts =>
    if octet < 256 ∧ 1 < left then combineParts? (left - 1) (value * 256 + octet) parts else none

def readLoose? (text : List Char) : Option V4 := do
  let parts ← (Text.splitOn '.' text).mapM readPart?
  let value ← combineParts? 4 0 parts
  return ofNat value

end V4

end TunnelServer
