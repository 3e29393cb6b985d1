import TunnelServer.Handshake
import TunnelServer.Network.Connector
import TunnelServer.Stream.Endpoint
import TunnelServer.Tunnel.Basic

/-! # Visits

A visit is a client's connection from the server's point of view: what comes from the client and
from the destination, and what it comes to. This module holds what a visit starts with, what the
server remarks about it in the log, and what is left when the server is done.
-/

namespace TunnelServer

/-- How the negotiation of the encryption goes. -/
inductive Negotiation where
  | succeeds (after : Nat)
  | fails (after : Nat) (reason : String)
  | hangs
deriving DecidableEq, Repr

structure Visit where
  /-- The address of the client, as it is shown. -/
  peer : String
  /-- When the client's connection was accepted. -/
  start : Nat
  client : Endpoint
  /-- The connection to the destination, if it comes to that. -/
  far : Endpoint
  clientBuffers : BufferSizes
  farBuffers : BufferSizes

/-- What the server remarks about a visit. -/
inductive Remark where
  | accepted
  | negotiationFailed (reason : String)
  | negotiationTimedOut
  | turnedAway (cause : HandshakeError)
  | requested (destination : Destination)
  | notConnected (cause : ConnectError)
  /-- The relay from the destination did not end in time. -/
  | relayStillAlive (label : String)
  | unexpected (cause : IoError)

namespace Remark

/-- The log record of a client that failed the handshake. A wrong secret may be a scan, and a client
that says nothing may not have got through the encryption. -/
def turnedAwayRecord (peer : String) : HandshakeError → LogLine
  | .badSecret => ⟨.info, "Wrong secret from " ++ peer ++ ", possibly a scan"⟩
  | .timeout .hello =>
    ⟨.debug, "Timeout during hello from " ++ peer ++ ", possible TLS failure"⟩
  | cause => ⟨.debug, "Handshake with " ++ peer ++ " failed: " ++ cause.message⟩

def record (peer : String) : Remark → LogLine
  | accepted => ⟨.debug, "New connection from " ++ peer⟩
  | negotiationFailed reason =>
    ⟨.debug, "TLS handshake failed from " ++ peer ++ ": " ++ reason⟩
  | negotiationTimedOut => ⟨.debug, "TLS handshake timeout from " ++ peer⟩
  | turnedAway cause => turnedAwayRecord peer cause
  | requested destination =>
    ⟨.info, "Client " ++ peer ++ " requests " ++ destination.render⟩
  | notConnected cause => ⟨.warn, cause.message⟩
  | relayStillAlive label => ⟨.warn, "Destination relay task still alive " ++ label⟩
  | unexpected cause =>
    ⟨.error, "Unexpected failure handling " ++ peer ++ ": IO error: " ++ cause.message⟩

end Remark

/-- How the server's work for a visit ends. -/
inductive VisitEnd where
  | done (time : Nat)
  | failed (cause : IoError) (time : Nat)
  /-- The server waits for something that never comes. -/
  | never
deriving DecidableEq

/-- What is left of a visit. -/
structure Service where
  ending : VisitEnd
  /-- What the client has sent and got. -/
  client : Endpoint
  /-- Every connection that was tried. -/
  attempts : List SocketAddress
  /-- The calls that closed connections, the first one first. -/
  closes : List Close
  log : List LogLine
  /-- The tunnel, if it came to that. -/
  tunnel : Option Tunnel

namespace Service

/-- The client was reset before there was a tunnel. -/
def reset (ending : VisitEnd) (client : Endpoint) (attempts : List SocketAddress)
    (log : List LogLine) : Service :=
  ⟨ending, client, attempts, [⟨.client, .abortive⟩], log, none⟩

def prepend (log : List LogLine) (service : Service) : Service :=
  { service with log := log ++ service.log }

end Service

end TunnelServer
