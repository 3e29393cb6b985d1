import TunnelServer.Address.V6

/-! # Addresses of either family

An address of either family, and the address of a port. An IPv6 address that stands for an IPv4
address is judged like the latter.
-/

namespace TunnelServer

inductive IpAddress where
  | v4 (address : V4)
  | v6 (address : V6)
deriving DecidableEq

namespace IpAddress

/-- The address with the IPv4 address in place of one that stands for it. -/
def canonical : IpAddress → IpAddress
  | v4 address => v4 address
  | v6 address =>
    match address.toV4? with
    | some inner => v4 inner
    | none => v6 address

/-- Whether an address of either family, taken as it is written, names this machine. -/
def isPlainLoopback : IpAddress → Bool
  | v4 address => address.isLoopback
  | v6 address => address = V6.loopback

/-- Whether an address is one of those that always name this machine. -/
def isLoopback (address : IpAddress) : Bool := address.canonical.isPlainLoopback

def characters : IpAddress → List Char
  | v4 address => address.characters
  | v6 address => address.characters

def render (address : IpAddress) : String := String.ofList address.characters

def read? (text : List Char) : Option IpAddress :=
  match V4.read? text with
  | some address => some (v4 address)
  | none => (V6.read? text).map v6

def ofString? (text : String) : Option IpAddress := read? text.toList

end IpAddress

structure SocketAddress where
  ip : IpAddress
  port : UInt16
deriving DecidableEq

namespace SocketAddress

def portCharacters (port : UInt16) : List Char := Numeral.digits 10 port.toNat

/-- An IPv6 address stands in brackets, so that the last colon is always the one before the port. -/
def characters (address : SocketAddress) : List Char :=
  match address.ip with
  | .v4 ip => ip.characters ++ ':' :: portCharacters address.port
  | .v6 ip => '[' :: ip.characters ++ ']' :: ':' :: portCharacters address.port

def render (address : SocketAddress) : String := String.ofList address.characters

/-- A port number of decimal digits, leading zeros allowed. -/
def readPort? (digits : List Char) : Option UInt16 := do
  let value ← Numeral.read? 10 digits
  guard (value < 65536)
  return UInt16.ofNat value

def splitPort (text : List Char) : Option (List Char × List Char) :=
  match text.reverse.span (· ≠ ':') with
  | (port, _ :: host) => some (host.reverse, port.reverse)
  | (_, []) => none

def unbracket? : List Char → Option (List Char)
  | '[' :: rest =>
    match rest.reverse with
    | ']' :: inner => some inner.reverse
    | _ => none
  | _ => none

end SocketAddress

end TunnelServer
