import TunnelServer.Crypto.Modular
import TunnelServer.Wire.Integer

/-! # Tagged binary elements

Keys and certificates are trees of elements, each with a tag, a length and contents. A tag has one
byte. The length has exactly one form: one byte below 128, else a mark and the one or two bytes of
the number.
-/

namespace TunnelServer.Tls.Der

/-! ## Tags -/

def booleanTag : UInt8 := 0x01

def integerTag : UInt8 := 0x02

def bitsTag : UInt8 := 0x03

def bytesTag : UInt8 := 0x04

def nameTag : UInt8 := 0x06

def sequenceTag : UInt8 := 0x30

/-- An optional part that holds elements, by its number. -/
def partTag (number : UInt8) : UInt8 := 0xa0 + number

/-- An optional part without elements in it, by its number. -/
def plainPartTag (number : UInt8) : UInt8 := 0x80 + number

/-! ## Reading -/

abbrev Reader := StateT (List UInt8) Option

def readLength? : List UInt8 → Option (Nat × List UInt8)
  | 0x81 :: a :: rest => if a < 0x80 then none else some (a.toNat, rest)
  | 0x82 :: a :: b :: rest => if a = 0 then none else some (a.toNat * 256 + b.toNat, rest)
  | first :: rest => if first < 0x80 then some (first.toNat, rest) else none
  | [] => none

/-- The tag and the contents of an element, and the bytes after it. -/
def readElement? : List UInt8 → Option ((UInt8 × List UInt8) × List UInt8)
  | [] => none
  | tag :: rest => do
    guard (tag &&& 0x1f ≠ 0x1f)
    let (length, rest) ← readLength? rest
    guard (length ≤ rest.length)
    return ((tag, rest.take length), rest.drop length)

def contents (tag : UInt8) : Reader (List UInt8) := fun bytes => do
  let ((found, inner), rest) ← readElement? bytes
  guard (found = tag)
  return (inner, rest)

def nextIs (tag : UInt8) : Reader Bool := fun bytes => some (bytes.head? = some tag, bytes)

def whole (reader : Reader α) (bytes : List UInt8) : Option α :=
  match reader bytes with
  | some (value, []) => some value
  | _ => none

def inside (tag : UInt8) (reader : Reader α) : Reader α := do
  match whole reader (← contents tag) with
  | some value => return value
  | none => failure

def remaining : Reader (List UInt8) := fun bytes => some (bytes, [])

/-- The number with some contents: not negative, and without zeros in front that it does not
need. -/
def naturalOf? : List UInt8 → Option Nat
  | [] => none
  | first :: rest =>
    if 0x80 ≤ first then none
    else if first = 0 ∧ rest.head?.any (· < 0x80) then none
    else some (Wire.ofBigEndian (first :: rest))

def natural : Reader Nat := do
  match naturalOf? (← contents integerTag) with
  | some n => return n
  | none => failure

/-- The bytes of a string of bits whose last byte is full. -/
def fullBits (tag : UInt8) : Reader (List UInt8) := inside tag do
  match ← remaining with
  | 0 :: bytes => return bytes
  | _ => failure

/-! ## Writing -/

def byteLength (n : Nat) : Nat := (Modular.bitLength n + 7) / 8

/-- A length in its only form. -/
def lengthBytes (n : Nat) : List UInt8 :=
  if n < 0x80 then [UInt8.ofNat n]
  else UInt8.ofNat (0x80 + byteLength n) :: Wire.toBigEndian (byteLength n) n

def element (tag : UInt8) (inner : List UInt8) : List UInt8 :=
  tag :: lengthBytes inner.length ++ inner

/-- A whole number that is not negative, with room for a sign. -/
def integer (n : Nat) : List UInt8 :=
  element integerTag (Wire.toBigEndian (Modular.bitLength n / 8 + 1) n)

/-- A string of bits that fills its last byte. -/
def bits (bytes : List UInt8) : List UInt8 := element bitsTag (0 :: bytes)

end TunnelServer.Tls.Der
