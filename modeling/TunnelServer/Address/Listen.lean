import TunnelServer.Address.Ip

/-! # Addresses to listen on

An IPv6 address to listen on may name a zone of the machine by its number, behind a percent sign.
Zone zero is the same as none.
-/

namespace TunnelServer

/-- The address of a port in a zone. -/
structure ListenAddress where
  socket : SocketAddress
  zone : UInt32
deriving DecidableEq

namespace ListenAddress

/-- A number of a zone in decimal, leading zeros allowed. -/
def readZone? (digits : List Char) : Option UInt32 := do
  let value ← Numeral.read? 10 digits
  guard (value < 4294967296)
  return UInt32.ofNat value

/-- Reads what stands in brackets: an IPv6 address, perhaps with a zone. -/
def readZoned? (text : List Char) : Option (V6 × UInt32) :=
  match text.span (· ≠ '%') with
  | (ip, []) => (V6.read? ip).map (·, 0)
  | (ip, _ :: zone) => do return (← V6.read? ip, ← readZone? zone)

def read? (text : List Char) : Option ListenAddress := do
  let (host, port) ← SocketAddress.splitPort text
  let port ← SocketAddress.readPort? port
  match SocketAddress.unbracket? host with
  | some inner =>
    let (ip, zone) ← readZoned? inner
    return ⟨⟨.v6 ip, port⟩, zone⟩
  | none => return ⟨⟨.v4 (← V4.read? host), port⟩, 0⟩

/-- The printed form, without zone zero. -/
def characters (address : ListenAddress) : List Char :=
  match address.socket.ip with
  | .v4 _ => address.socket.characters
  | .v6 ip =>
    if address.zone = 0 then address.socket.characters
    else
      '[' :: ip.characters ++ '%' :: Numeral.digits 10 address.zone.toNat ++ ']' :: ':' ::
        SocketAddress.portCharacters address.socket.port

def render (address : ListenAddress) : String := String.ofList address.characters

end ListenAddress

end TunnelServer
