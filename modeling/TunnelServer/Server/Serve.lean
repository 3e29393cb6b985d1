import TunnelServer.Server.Basic
import TunnelServer.Server.Visit
import TunnelServer.Tunnel.Schedule

/-! # Serving a client

The server negotiates the encryption, authenticates the client, connects it to the destination, and
relays both ways. It waits for the relay to the destination, then for the other one, but not without
a limit, and closes the client's connection. A client that does not get that far is reset, and only
who was authenticated causes an attempt to connect.
-/

namespace TunnelServer

namespace Tunnel

def exit? (direction : Direction) (tunnel : Tunnel) : Option (RelayExit × Nat) :=
  (tunnel.relays.find? (·.direction = direction)).bind Relay.exit?

def hasEnded (direction : Direction) (tunnel : Tunnel) : Bool := (tunnel.exit? direction).isSome

/-- The client's end of a tunnel: what is read from it and what is written to it. -/
def clientEnd (tunnel : Tunnel) (otherwise : Endpoint) : Endpoint where
  source :=
    ((tunnel.relays.find? (·.direction = .clientToDestination)).map Relay.source).getD
      otherwise.source
  sink :=
    ((tunnel.relays.find? (·.direction = .destinationToClient)).map Relay.sink).getD
      otherwise.sink

end Tunnel

namespace Server

/-- The tunnel once the relay to the destination has ended, or nothing is left to do. -/
def awaitFirst (tunnel : Tunnel) : Tunnel :=
  tunnel.advance none (Tunnel.hasEnded .clientToDestination)

/-- The tunnel once the relay from the destination has ended, or the limit was reached. -/
def awaitSecond (limit : Nat) (tunnel : Tunnel) : Tunnel :=
  let after := tunnel.advance (some limit) (Tunnel.hasEnded .destinationToClient)
  if after.hasEnded .destinationToClient then after else { after with now := limit }

def relay (server : Server) (visit : Visit) (client : Endpoint) (attempts : List SocketAddress)
    (tunnel : Tunnel) : Service :=
  let buffers := Notice.bufferText (some visit.peer) visit.clientBuffers visit.farBuffers
  let records (tunnel : Tunnel) : List LogLine :=
    tunnel.log.map (Notice.record tunnel.context.label buffers)
  let first := awaitFirst tunnel
  match first.exit? .clientToDestination with
  | none =>
    ⟨.never, first.clientEnd client, attempts, first.context.closes, records first, some first⟩
  | some (_, time) =>
    let second := awaitSecond (time + server.timeouts.peerJoin) first
    let late :=
      if second.hasEnded .destinationToClient then []
      else [(Remark.relayStillAlive second.context.label).record visit.peer]
    let last := second.perform .finish
    ⟨.done second.now, last.clientEnd client, attempts, last.context.closes,
      records last ++ late, some last⟩

def setup (server : Server) (destination : Destination) (address : SocketAddress) :
    Tunnel.Setup where
  label := destination.host ++ "/" ++ address.render
  debug := server.debug
  timeout := server.timeouts.transfer
  bufferSize := server.relayBufferSize

def connect (server : Server) (machine : Machine) (visit : Visit) (client : Endpoint) (now : Nat)
    (destination : Destination) : Service :=
  let run := server.connector.connect machine destination
  let time := now + run.elapsed
  match run.result with
  | .error cause =>
    .reset (.done time) client run.attempts [(Remark.notConnected cause).record visit.peer]
  | .ok connection =>
    match machine.handle connection.peer with
    | .error cause => .reset (.failed cause time) client run.attempts []
    | .ok () =>
      server.relay visit client run.attempts
        (.setUp (server.setup destination connection.peer) time client visit.far)

def serve (server : Server) (machine : Machine) (visit : Visit) : Service :=
  let talk : Conversation := ⟨visit.start, visit.client.source, visit.client.sink, []⟩
  let (result, talk) := authenticate server.secret server.timeouts.handshake talk
  let client : Endpoint := ⟨talk.source, talk.sink⟩
  match result with
  | .error .parked => ⟨.never, client, [], [], talk.log, none⟩
  | .error (.failed cause) =>
    .reset (.done talk.now) client [] (talk.log ++ [(Remark.turnedAway cause).record visit.peer])
  | .ok destination =>
    (server.connect machine visit client talk.now destination).prepend
      (talk.log ++ [(Remark.requested destination).record visit.peer])

/-- Negotiates the encryption, within the limit of the handshake, and serves the client. -/
def negotiate (server : Server) (machine : Machine) (negotiation : Negotiation) (visit : Visit) :
    Service :=
  let limit := server.timeouts.handshake
  let refused (after : Nat) (remark : Remark) : Service :=
    .reset (.done (visit.start + after)) visit.client [] [remark.record visit.peer]
  match negotiation with
  | .hangs => refused limit .negotiationTimedOut
  | .fails after reason =>
    if limit < after then refused limit .negotiationTimedOut
    else refused after (.negotiationFailed reason)
  | .succeeds after =>
    if limit < after then refused limit .negotiationTimedOut
    else server.serve machine { visit with start := visit.start + after }

/-- What a failure that was not expected adds to the log. -/
def afterword (peer : String) : VisitEnd → List LogLine
  | .failed cause _ => [(Remark.unexpected cause).record peer]
  | _ => []

def receive (server : Server) (machine : Machine) (negotiation : Negotiation) (visit : Visit) :
    Service :=
  let service := (server.negotiate machine negotiation visit).prepend
    [Remark.accepted.record visit.peer]
  { service with log := service.log ++ afterword visit.peer service.ending }

end Server

end TunnelServer
