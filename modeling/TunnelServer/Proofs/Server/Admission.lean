import TunnelServer.Proofs.Handshake.Outcome
import TunnelServer.Proofs.Network.Loopback
import TunnelServer.Proofs.Tunnel.Step
import TunnelServer.Server.Serve
import TunnelServer.Tunnel.Interleaving

/-!
# Who gets a connection

A server tries one connection for a client at most, and only after it has taken a request in full
from this client: to the address that the resolver gave for the host, if the policy allows it, and
to the port. A client that does not get a tunnel is reset, and has got at most the status byte.
-/

namespace TunnelServer

namespace Tunnel

/-- The relay to the destination stands first, and what it has taken begins with these bytes. -/
def HasTaken (tunnel : Tunnel) (bytes : List UInt8) : Prop :=
  ∃ relay, tunnel.relays[0]? = some relay ∧
    relay.direction = .clientToDestination ∧ bytes <+: relay.source.taken

variable {tunnel first last : Tunnel} {bytes : List UInt8}

theorem HasTaken.reaches {allowed : Operation → Prop} (h : first.HasTaken bytes)
    (moves : Reaches allowed first last) : last.HasTaken bytes := by
  refine moves.exists_relay (fun {_ relay _ after _} held step => ?_) h
  obtain ⟨forth, grown⟩ := held
  have direction : after.direction = relay.direction := step.setup_eq.1
  exact ⟨direction.trans forth, grown.trans step.isPrefix_taken⟩

theorem HasTaken.advance (h : tunnel.HasTaken bytes) (limit : Option Nat) (stop : Tunnel → Bool) :
    (tunnel.advance limit stop).HasTaken bytes := by
  have turns : TakesTurns (fun _ => False) tunnel (tunnel.advance limit stop) :=
    takesTurns_advance limit stop tunnel
  exact h.reaches turns.reaches

theorem HasTaken.clientEnd (h : tunnel.HasTaken bytes) (otherwise : Endpoint) :
    bytes <+: (tunnel.clientEnd otherwise).source.taken := by
  obtain ⟨relay, place, forth, taken⟩ := h
  obtain ⟨tail, hr⟩ : ∃ tail, tunnel.relays = relay :: tail := by
    cases hr : tunnel.relays with
    | nil => simp [hr] at place
    | cons head tail =>
      rw [hr] at place
      obtain rfl : head = relay := Option.some.inj place
      exact ⟨tail, rfl⟩
  simpa [Tunnel.clientEnd, hr, forth] using taken

theorem HasTaken.awaitSecond (h : tunnel.HasTaken bytes) (limit : Nat) :
    (Server.awaitSecond limit tunnel).HasTaken bytes := by
  have later := h.advance (some limit) (Tunnel.hasEnded .destinationToClient)
  simp only [Server.awaitSecond]
  split
  · exact later
  · exact later

end Tunnel

/-- The client was reset without a tunnel and has got the status byte or nothing, and the server has
done its work without a failure of its own. -/
structure Service.TurnsAway (service : Service) : Prop where
  ended : ∃ time, service.ending = .done time
  reset : service.closes = [⟨.client, .abortive⟩]
  sent : service.client.sink.accepted = [] ∨ service.client.sink.accepted = [0]
  tunnel : service.tunnel = none

theorem Service.TurnsAway.prepend {service : Service} (h : service.TurnsAway) (log : List LogLine) :
    (service.prepend log).TurnsAway := ⟨h.ended, h.reset, h.sent, h.tunnel⟩

namespace Server

variable {server : Server} {machine : Machine} {visit : Visit} {client : Endpoint} {now : Nat}
  {destination : Destination} {talk : Conversation}

section relay

variable (attempts : List SocketAddress) {tunnel : Tunnel}

theorem attempts_relay : (server.relay visit client attempts tunnel).attempts = attempts := by
  simp only [relay]
  split <;> rfl

theorem tunnel_relay_ne : (server.relay visit client attempts tunnel).tunnel ≠ none := by
  simp only [relay]
  split <;> exact Option.some_ne_none _

theorem isPrefix_taken_relay {bytes : List UInt8} (h : tunnel.HasTaken bytes) :
    bytes <+: (server.relay visit client attempts tunnel).client.source.taken := by
  have first : (awaitFirst tunnel).HasTaken bytes := h.advance none _
  simp only [relay]
  split
  · exact first.clientEnd client
  · exact (first.awaitSecond _).clientEnd client

end relay

section connect

variable (server machine visit client now destination)

theorem attempts_connect : (server.connect machine visit client now destination).attempts =
    (server.connector.connect machine destination).attempts := by
  simp only [connect]
  split
  · rfl
  · split
    · rfl
    · exact attempts_relay _

theorem isPrefix_taken_connect : client.source.taken <+:
    (server.connect machine visit client now destination).client.source.taken := by
  simp only [connect]
  split
  · exact List.prefix_refl _
  · split
    · exact List.prefix_refl _
    · exact isPrefix_taken_relay _ ⟨_, rfl, rfl, List.prefix_refl _⟩

end connect

theorem turnsAway_reset {time : Nat} {attempts : List SocketAddress} {log : List LogLine}
    (sent : client.sink.accepted = [] ∨ client.sink.accepted = [0]) :
    (Service.reset (.done time) client attempts log).TurnsAway := ⟨⟨time, rfl⟩, rfl, sent, rfl⟩

theorem turnsAway_connect {cause : ConnectError}
    (h : (server.connector.connect machine destination).result = .error cause)
    (sent : client.sink.accepted = [] ∨ client.sink.accepted = [0]) :
    (server.connect machine visit client now destination).TurnsAway := by
  simp only [connect, h]
  exact turnsAway_reset sent

/-- Only a failed connection, or a failure of the machine, leaves a client without a tunnel. -/
theorem connect_early (sent : client.sink.accepted = [] ∨ client.sink.accepted = [0])
    (h : (server.connect machine visit client now destination).tunnel = none) :
    (server.connect machine visit client now destination).TurnsAway ∨
      ∃ connection cause time,
        (server.connector.connect machine destination).result = .ok connection ∧
        machine.handle connection.peer = .error cause ∧
        (server.connect machine visit client now destination).ending = .failed cause time := by
  cases hr : (server.connector.connect machine destination).result with
  | error cause => exact .inl (turnsAway_connect hr sent)
  | ok connection =>
    right
    cases hh : machine.handle connection.peer with
    | error cause =>
      refine ⟨connection, cause, now + (server.connector.connect machine destination).elapsed, rfl,
        hh, ?_⟩
      simp only [connect, hr, hh]
      rfl
    | ok =>
      simp only [connect, hr, hh] at h
      exact absurd h (tunnel_relay_ne _)

/-- How the handshake with a client ends. -/
def admission (server : Server) (visit : Visit) : Except HandshakeHalt Destination × Conversation :=
  authenticate server.secret server.timeouts.handshake
    ⟨visit.start, visit.client.source, visit.client.sink, []⟩

theorem serve_of_parked (h : server.admission visit = (.error .parked, talk)) :
    server.serve machine visit = ⟨.never, ⟨talk.source, talk.sink⟩, [], [], talk.log, none⟩ := by
  rw [admission] at h
  simp only [serve, h]

theorem serve_of_failed {cause : HandshakeError}
    (h : server.admission visit = (.error (.failed cause), talk)) :
    server.serve machine visit = .reset (.done talk.now) ⟨talk.source, talk.sink⟩ []
      (talk.log ++ [(Remark.turnedAway cause).record visit.peer]) := by
  rw [admission] at h
  simp only [serve, h]

theorem serve_of_ok (h : server.admission visit = (.ok destination, talk)) :
    server.serve machine visit =
      (server.connect machine visit ⟨talk.source, talk.sink⟩ talk.now destination).prepend
        (talk.log ++ [(Remark.requested destination).record visit.peer]) := by
  rw [admission] at h
  simp only [serve, h]

/-- What holds of a connection that was tried for a client. -/
structure Entitled (server : Server) (visit : Visit) (service : Service)
    (address : SocketAddress) (destination : Destination) : Prop where
  admitted : (server.admission visit).1 = .ok destination
  /-- The request had been taken by then, and nothing else. -/
  requested : IsRequest server.secret destination (server.admission visit).2.source.taken
  taken : (server.admission visit).2.source.taken <+: service.client.source.taken
  resolved : (server.connector.resolver.lookup destination.host).answer = .ok address.ip
  port : address.port = destination.port
  allowed : server.connector.rejectLoopback = true → ¬ address.ip.NamesLoopback

/-- What a server makes sure of when it serves a client. -/
structure Guards (server : Server) (machine : Machine) (visit : Visit) (service : Service) :
    Prop where
  once : service.attempts.length ≤ 1
  entitled : ∀ address ∈ service.attempts, ∃ destination,
    server.Entitled visit service address destination
  refused : ∀ cause, (server.admission visit).1 = .error (.failed cause) →
    service.TurnsAway ∧ service.attempts = [] ∧
      (cause.step.Silent → service.client.sink.accepted = [])
  unconnected : ∀ destination cause, (server.admission visit).1 = .ok destination →
    (server.connector.connect machine destination).result = .error cause → service.TurnsAway
  early : service.tunnel = none → service.TurnsAway ∨
    ((server.admission visit).1 = .error .parked ∧ service.ending = .never) ∨
    ∃ destination connection cause time, (server.admission visit).1 = .ok destination ∧
      (server.connector.connect machine destination).result = .ok connection ∧
      machine.handle connection.peer = .error cause ∧ service.ending = .failed cause time

theorem guards_of_parked (h : server.admission visit = (.error .parked, talk)) :
    server.Guards machine visit (server.serve machine visit) := by
  rw [serve_of_parked h]
  refine
    { once := Nat.zero_le 1
      entitled := fun _ tried => absurd tried List.not_mem_nil
      refused := fun cause failed => ?_
      unconnected := fun destination cause admitted => ?_
      early := fun _ => .inr (.inl ⟨by rw [h], rfl⟩) }
  · rw [h] at failed
    cases failed
  · rw [h] at admitted
    cases admitted

theorem guards_of_failed {cause : HandshakeError}
    (h : server.admission visit = (.error (.failed cause), talk))
    (outcome : Outcome server.secret (.error (.failed cause)) talk) :
    server.Guards machine visit (server.serve machine visit) := by
  have away : (server.serve machine visit).TurnsAway := by
    rw [serve_of_failed h]
    exact turnsAway_reset outcome.sent
  have idle : (server.serve machine visit).attempts = [] := by
    rw [serve_of_failed h]
    rfl
  have client : (server.serve machine visit).client = ⟨talk.source, talk.sink⟩ := by
    rw [serve_of_failed h]
    rfl
  refine
    { once := by rw [idle]; exact Nat.zero_le 1
      entitled := fun address tried => ?_
      refused := fun other failed => ⟨away, idle, fun silent => ?_⟩
      unconnected := fun destination other admitted => ?_
      early := fun _ => .inl away }
  · rw [idle] at tried
    cases tried
  · rw [h] at failed
    cases failed
    rw [client]
    exact outcome.silent cause rfl silent
  · rw [h] at admitted
    cases admitted

theorem guards_of_ok (h : server.admission visit = (.ok destination, talk))
    (outcome : Outcome server.secret (.ok destination) talk) :
    server.Guards machine visit (server.serve machine visit) := by
  have admitted : (server.admission visit).1 = .ok destination := by rw [h]
  have said : (server.admission visit).2 = talk := by rw [h]
  have request : IsRequest server.secret destination talk.source.taken :=
    (outcome.asked destination rfl).1
  have attempts : (server.serve machine visit).attempts =
      (server.connector.connect machine destination).attempts := by
    rw [serve_of_ok h]
    exact attempts_connect ..
  have taken : talk.source.taken <+: (server.serve machine visit).client.source.taken := by
    rw [serve_of_ok h]
    exact isPrefix_taken_connect server machine visit ⟨talk.source, talk.sink⟩ talk.now destination
  refine
    { once := by rw [attempts]; exact Connector.length_attempts_connect_le
      entitled := fun address tried => ⟨destination, ?_⟩
      refused := fun cause failed => ?_
      unconnected := fun named cause asked failed => ?_
      early := fun none => ?_ }
  · rw [attempts, Connector.mem_attempts_connect_iff] at tried
    obtain ⟨answer, allowed, port⟩ := tried
    refine ⟨admitted, said ▸ request, said ▸ taken, Connector.answer_of_resolve answer, port, ?_⟩
    exact Connector.not_namesLoopback_of_rejects_eq allowed
  · rw [admitted] at failed
    cases failed
  · rw [admitted] at asked
    cases asked
    rw [serve_of_ok h]
    exact (turnsAway_connect failed outcome.sent).prepend _
  · rw [serve_of_ok h] at none ⊢
    rcases connect_early outcome.sent none with
      away | ⟨connection, cause, time, connected, closed, ending⟩
    · exact .inl (away.prepend _)
    · exact .inr (.inr ⟨destination, connection, cause, time, admitted, connected, closed, ending⟩)

/-- Whatever a client says and however its connection behaves, the server guards itself. -/
theorem serve_guards (server : Server) (machine : Machine) (visit : Visit) (script : List Event)
    (plan : SinkPlan) :
    let visit := { visit with client := ⟨.ofScript script, .ofPlan plan⟩ }
    server.Guards machine visit (server.serve machine visit) := by
  intro visit
  have outcome : Outcome server.secret (server.admission visit).1 (server.admission visit).2 :=
    authenticate_outcome server.secret server.timeouts.handshake visit.start script plan []
  rcases h : server.admission visit with ⟨result, talk⟩
  rw [h] at outcome
  match result with
  | .error .parked => exact guards_of_parked h
  | .error (.failed cause) => exact guards_of_failed h outcome
  | .ok destination => exact guards_of_ok h outcome

end Server

end TunnelServer
