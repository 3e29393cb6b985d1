import TunnelServer.Network.Machine
import TunnelServer.Network.Resolver
import TunnelServer.Wire.Request

/-! # Connecting to a destination

A connector resolves a destination, applies its policy to the address, and connects. Resolving and
connecting have the same time limit each; an answer that comes exactly at the limit is in time.
-/

namespace TunnelServer

inductive ConnectError where
  | unknownHost (host : String) (source : IoError)
  | loopback (ip : IpAddress)
  | timeout (address : SocketAddress)
  | io (address : SocketAddress) (source : IoError)

def ConnectError.message : ConnectError → String
  | .unknownHost host source => "unknown host " ++ host ++ ": " ++ source.message
  | .loopback ip => "loopback destination " ++ ip.render ++ " rejected"
  | .timeout address => "timeout connecting to " ++ address.render
  | .io address source => "failed to connect to " ++ address.render ++ ": " ++ source.message

/-- How destinations are resolved and which are refused. -/
structure Connector where
  resolver : Resolver
  rejectLoopback : Bool
  connectTimeout : Nat

/-- A connection: its other end, and whether small writes are sent at once. -/
structure Connection where
  peer : SocketAddress
  noDelay : Bool
deriving DecidableEq

/-- A finished attempt: what came of it, how long it took, and every connection that was tried. -/
structure ConnectRun where
  result : Except ConnectError Connection
  elapsed : Nat
  attempts : List SocketAddress

namespace Connector

def withResolver (connector : Connector) (resolver : Resolver) : Connector :=
  { connector with resolver }

def rejects (connector : Connector) (ip : IpAddress) : Bool :=
  connector.rejectLoopback && ip.isLoopback

/-- The failure of a resolver that did not answer within the limit. -/
def resolveTimedOut : IoError := .because .timedOut "resolve timed out"

/-- Resolves within the limit; gives the time at which the answer, or the limit, was reached. -/
def resolve (connector : Connector) (host : String) : Except IoError IpAddress × Nat :=
  let lookup := connector.resolver.lookup host
  if connector.connectTimeout < lookup.delay then
    (.error resolveTimedOut, connector.connectTimeout)
  else (lookup.answer, lookup.delay)

def attempt (connector : Connector) (machine : Machine) (address : SocketAddress)
    (start : Nat) : ConnectRun :=
  let limit := connector.connectTimeout
  let late : ConnectRun := ⟨.error (.timeout address), start + limit, [address]⟩
  match machine.react address with
  | .silent => late
  | .accepts after =>
    if limit < after then late else ⟨.ok ⟨address, true⟩, start + after, [address]⟩
  | .fails after cause =>
    if limit < after then late else ⟨.error (.io address cause), start + after, [address]⟩

def connect (connector : Connector) (machine : Machine) (destination : Destination) :
    ConnectRun :=
  match connector.resolve destination.host with
  | (.error cause, time) => ⟨.error (.unknownHost destination.host cause), time, []⟩
  | (.ok ip, time) =>
    if connector.rejects ip then ⟨.error (.loopback ip), time, []⟩
    else connector.attempt machine ⟨ip, destination.port⟩ time

def describe (connector : Connector) : String :=
  "Connector \x7b reject_loopback: " ++ toString connector.rejectLoopback ++
    ", connect_timeout: " ++ Millis.render connector.connectTimeout ++ " \x7d"

end Connector

end TunnelServer
