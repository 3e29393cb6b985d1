import TunnelServer.Wire.Integer
import TunnelServer.Wire.Secret

/-! # The client's request

A client sends a greeting, the secret and a time limit; once the server has answered with its
status byte it sends the destination. Strings are preceded by their length in bytes as a 16-bit
number, so neither string may have more than 65535 bytes.
-/

namespace TunnelServer

/-- Where a client wants to be connected to. -/
structure Destination where
  host : String
  port : UInt16
deriving DecidableEq, Repr

/-- The host as it was asked for, a colon, and the port. -/
def Destination.render (destination : Destination) : String :=
  destination.host ++ ":" ++ toString destination.port.toNat

/-- All that a client has to say. -/
structure Request where
  hello : String
  secret : Secret
  timeout : Int32
  host : String
  port : UInt16

namespace Wire

def encodeString (text : String) : Except ProtocolError (List UInt8) :=
  let bytes := Utf8.encode text
  if bytes.length < 65536 then .ok (frame bytes)
  else .error (.stringTooLong bytes.length)

end Wire

namespace Request

/-- What is sent before the status byte. -/
def encodeAuth (request : Request) : Except ProtocolError (List UInt8) := do
  let hello ← Wire.encodeString request.hello
  return hello ++ request.secret.bytes ++ Wire.encodeI32 request.timeout

/-- What is sent after the status byte. -/
def encodeDestination (request : Request) : Except ProtocolError (List UInt8) := do
  let host ← Wire.encodeString request.host
  return host ++ Wire.encodeU16 request.port

def encode (request : Request) : Except ProtocolError (List UInt8) := do
  let auth ← request.encodeAuth
  let destination ← request.encodeDestination
  return auth ++ destination

def destination (request : Request) : Destination := ⟨request.host, request.port⟩

end Request

end TunnelServer
