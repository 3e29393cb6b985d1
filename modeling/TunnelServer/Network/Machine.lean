import TunnelServer.Address.Ip
import TunnelServer.Io.Error
import TunnelServer.Time

/-! # The machine's network

What the machine contributes to a run: how each address reacts to an attempt to connect, whether
there is a handle to close the connection with, which addresses can be listened on, and what its
directory of names says.
-/

namespace TunnelServer

/-- How an address reacts to an attempt to connect. -/
inductive Reaction where
  /-- The connection stands after a while. -/
  | accepts (after : Nat)
  /-- The attempt fails after a while. -/
  | fails (after : Nat) (cause : IoError)
  /-- There is never an answer. -/
  | silent
deriving DecidableEq

/-- A machine as the program sees it. -/
structure Machine where
  react : SocketAddress → Reaction
  /-- Whether a second handle on a connection to an address can be had, to close it with. -/
  handle : SocketAddress → Except IoError Unit
  /-- Whether an address belongs to the machine, so that it can be listened on. -/
  owns : IpAddress → Bool
  /-- The directory of names, for hosts that are no address in any form. -/
  directory : String → Except IoError IpAddress

namespace Machine

/-- A machine without any interface. There is no route to any address, its own included, and no
name service. IPv4 addresses can be listened on, of the IPv6 addresses only the unspecified one and
those that stand for an IPv4 address. -/
def isolated : Machine where
  react _ := .fails 0 .noRoute
  handle _ := .ok ()
  owns
    | .v4 _ => true
    | .v6 address => address = V6.unspecified || address.toV4?.isSome
  directory _ := .error .nameServiceDown

def bind (machine : Machine) (address : SocketAddress) : Except IoError Unit :=
  if machine.owns address.ip then .ok () else .error .addressNotAssigned

end Machine

end TunnelServer
