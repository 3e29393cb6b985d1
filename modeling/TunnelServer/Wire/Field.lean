import TunnelServer.Stream.Copying
import TunnelServer.Wire.Integer
import TunnelServer.Wire.Secret

/-! # Reading fields under a deadline

Each field is read from a source at the time the clock shows; the clock moves on to the moment at
which the field was complete or failed. Bytes read before a failure stay read, and a string whose
bytes are no text has still been read as a whole, so the next field starts where it should.
-/

namespace TunnelServer

/-- A source together with the clock of whoever reads it. -/
structure Reader where
  now : Nat
  source : Source

/-- Why a field was not obtained. -/
inductive FieldHalt where
  | failed (cause : ProtocolError)
  | expired
  /-- There is no deadline and nothing more will come. -/
  | parked
deriving DecidableEq

abbrev FieldReader := ExceptT FieldHalt (StateM Reader)

namespace Wire

/-- What becomes of a field after the attempt to take its bytes; `short` is the failure if the stream
ended first. -/
def conclude (short : IoError) (attempt : Source.Gathered × Source) :
    Except FieldHalt (List UInt8) × Reader :=
  let (result, source) := attempt
  let outcome := match result.outcome with
    | .complete => .ok result.bytes
    | .ended => .error (.failed (.io short))
    | .faulted kind => .error (.failed (.io (.ofKind kind)))
    | .expired => .error .expired
    | .parked => .error .parked
  (outcome, ⟨result.time, source⟩)

/-- Reads a fixed number of bytes. -/
def readBytes (deadline : Option Nat) (wanted : Nat) (short : IoError) :
    FieldReader (List UInt8) := fun reader =>
  conclude short (reader.source.takeExactly deadline wanted reader.now)

/-- Copies a fixed number of bytes to where they are dropped. -/
def skipBytes (deadline : Option Nat) (wanted : Nat) : FieldReader (List UInt8) := fun reader =>
  conclude .unexpectedEnd (reader.source.copyAway deadline wanted reader.now)

def readU16 (deadline : Option Nat) : FieldReader UInt16 := do
  let bytes ← readBytes deadline 2 .unexpectedEnd
  return decodeU16 bytes

def readI32 (deadline : Option Nat) : FieldReader Int32 := do
  let bytes ← readBytes deadline 4 .unexpectedEnd
  return decodeI32 bytes

def readSecret (deadline : Option Nat) : FieldReader (List UInt8) :=
  readBytes deadline Secret.length .earlyEnd

/-- Reads a string: its length and then its bytes, which must be UTF-8. -/
def readString (deadline : Option Nat) : FieldReader String := do
  let length ← readU16 deadline
  let bytes ← readBytes deadline length.toNat .earlyEnd
  match Utf8.decode? bytes with
  | some text => return text
  | none => throw (.failed .invalidUtf8)

/-- Reads over a string without decoding it and gives its length in bytes. -/
def skipString (deadline : Option Nat) : FieldReader Nat := do
  let length ← readU16 deadline
  let _ ← skipBytes deadline length.toNat
  return length.toNat

end Wire

end TunnelServer
