import TunnelServer.Proofs.Handshake.Encoding
import TunnelServer.Proofs.Tunnel.Conveyance

/-!
# From the handshake to the tunnel

A client may send data right behind its request, without waiting for an answer. The handshake leaves
all of it in the source, even where it arrived together with the request, and the relay to the
destination conveys exactly this data.
-/

namespace TunnelServer

open Source (Ends readyAt)
open Tunnel (Reaches)

variable {request : Request} {bytes payload : List UInt8} {readTimeout start window bufferSize : Nat}
  {script : List Event} {plan sinkPlan : SinkPlan} {result : Except HandshakeHalt Destination}
  {talk : Conversation} {allowed : Operation → Prop} {first last : Tunnel} {index : Nat}

/-- What the handshake leaves of a stream is conveyed. -/
theorem conveying_of_handed {due : Nat} {after : List Event}
    (handed : Source.Handed (⟨due, .endOfStream⟩ :: after) bytes payload talk.now
      (.ofScript script) talk.source)
    (started : first.relays[index]? = some (.begin .clientToDestination window bufferSize talk.source
      (.ofPlan sinkPlan) first.now))
    (later : talk.now ≤ first.now) (opened : first.context.closing = false)
    (undecided : ∀ relay ∈ first.relays, relay.phase.decided? = none)
    (room : 0 < bufferSize) (absorbs : sinkPlan.Absorbs)
    (paced : readyAt first.now (bytes.length + 1) script ≤ first.now + window) :
    first.Conveying index window first.now talk.source.script payload := by
  have ready := handed.resumes first.now 1 later
  refine ⟨Nat.le_refl _, fun relay mem => ?_, _, started, ⟨rfl, room, absorbs⟩, ?_⟩
  · have none := undecided relay mem
    cases hp : relay.phase <;> rw [hp] at none <;> trivial
  · refine .reading rfl ⟨opened, ⟨⟨payload, rfl, due, after, handed.brings⟩, .refl _ _⟩, ?_, ?_⟩
    · exact Source.le_readyAt ..
    · show readyAt first.now 1 talk.source.script ≤ first.now + window
      rw [ready]
      exact paced

/-- Early data survives the handover. A client sends a request and then a payload and the end of the
stream, divided in any way, and no part comes too late. Then the handshake gives the destination, and
a relay that goes on with the same source ends for the end of the stream, at most the time for
closing its sink after that arrived, and has written exactly the payload, unless another direction
ended the tunnel. -/
theorem early_data_conveyed (encoded : request.encode = .ok bytes)
    (positive : 0 ≤ request.timeout.toInt) (welcome : plan.Welcomes)
    (ends : Ends script (bytes ++ payload)) (inTime : request.InTime readTimeout start script plan)
    (answered : authenticate request.secret readTimeout
      ⟨start, .ofScript script, .ofPlan plan, []⟩ = (result, talk))
    (started : first.relays[index]? = some (.begin .clientToDestination window bufferSize talk.source
      (.ofPlan sinkPlan) first.now))
    (later : talk.now ≤ first.now) (opened : first.context.closing = false)
    (undecided : ∀ relay ∈ first.relays, relay.phase.decided? = none)
    (room : 0 < bufferSize) (absorbs : sinkPlan.Absorbs)
    (paced : ∀ count ≤ payload.length, readyAt first.now (bytes.length + (count + 1)) script ≤
      readyAt first.now (bytes.length + count) script + window)
    (calls : ∀ operation, allowed operation → operation ≠ .shutdown) :
    result = .ok ⟨request.host, request.port⟩ ∧
      (∀ last, Reaches allowed first last → last.LeftTo index →
        ∃ relay, last.relays[index]? = some relay ∧
          (∀ exit time, relay.exit? = some (exit, time) →
            exit = .eof ∧ relay.sink.accepted = payload) ∧
          (readyAt first.now (bytes.length + (payload.length + 1)) script + Millis.closeLimit <
            last.now → relay.exit?.isSome)) ∧
      ∀ time, ∃ last, Reaches allowed first last ∧ time ≤ last.now := by
  obtain ⟨auth, named, ha, hd, rfl⟩ := Request.encode_eq_ok_iff.mp encoded
  obtain ⟨fits, rfl⟩ := Request.encodeAuth_eq_ok_iff.mp ha
  obtain ⟨fits', rfl⟩ := Request.encodeDestination_eq_ok_iff.mp hd
  obtain ⟨due, after, brings⟩ := ends
  rw [List.append_assoc] at brings
  obtain ⟨known, -, handed⟩ := authenticate_in_time welcome positive fits fits' inTime brings
  simp only [answered] at known handed
  refine ⟨known, fun last moves left => ?_, first.exists_reaches_le_now allowed⟩
  have ready (count : Nat) : readyAt first.now count talk.source.script = readyAt first.now
      ((request.authFields.flatten ++ request.destinationFields.flatten).length + count) script :=
    handed.resumes first.now count later
  have soon : readyAt first.now ((request.authFields.flatten ++
      request.destinationFields.flatten).length + 1) script ≤ first.now + window := by
    have next := paced 0 (Nat.zero_le _)
    rwa [← ready 0, Source.readyAt_zero] at next
  have conveying : first.Conveying index window first.now talk.source.script payload :=
    conveying_of_handed handed started later opened undecided room absorbs soon
  have paced' : ∀ count ≤ payload.length, readyAt first.now (count + 1) talk.source.script ≤
      readyAt first.now count talk.source.script + window := by
    intro count few
    rw [ready, ready]
    exact paced count few
  obtain ⟨relay, place, -, conveys⟩ := (conveying.reaches paced' calls moves left).relay
  refine ⟨relay, place, fun exit time exited => conveys.of_exit? exited, fun late => ?_⟩
  apply conveys.finished_of_lt
  rw [ready]
  exact late

/-- A client that does not wait for the status byte, and whose first byte of data comes together with
the end of its request. -/
def eager : List Event := knock.haltingly [⟨31, .data [8, 7]⟩, ⟨33, .endOfStream⟩]

def eagerTalk : Except HandshakeHalt Destination × Conversation :=
  authenticate sevens 10 ⟨0, .ofScript eager, .ofPlan .slow, []⟩

/-- The tunnel of this client, with a buffer that is smaller than what it has sent already, to a
destination that says nothing. -/
def eagerTunnel : Tunnel :=
  .setUp ⟨"eager", false, 40, 2⟩ 45 ⟨eagerTalk.2.source, .ofPlan .unrestricted⟩
    ⟨.ofScript [], .ofPlan .unrestricted⟩

theorem early_data_conveyed_eager :
    eagerTalk.1 = .ok ⟨"a", 443⟩ ∧
      Reaches (fun _ => False) eagerTunnel (eagerTunnel.runUntil 100) ∧
      ∃ relay, (eagerTunnel.runUntil 100).relays[0]? = some relay ∧
        relay.exit? = some (.eof, 45) ∧ relay.sink.accepted = [9, 8, 7] := by
  have encoded : knock.encode = .ok _ := Request.encode_eq_ok_iff.mpr
    ⟨_, _, Request.encodeAuth_eq_ok_iff.mpr ⟨by decide, rfl⟩,
      Request.encodeDestination_eq_ok_iff.mpr ⟨by decide, rfl⟩, rfl⟩
  have inTime : knock.InTime 10 0 eager .slow :=
    ⟨⟨by decide, by decide, by decide, trivial⟩, ⟨by decide, by decide, trivial⟩⟩
  have ends : Ends eager (knock.authFields.flatten ++ knock.destinationFields.flatten ++ [9, 8, 7]) :=
    ⟨33, [], knock.brings_haltingly (.piece (.done rfl))⟩
  have absorbs : SinkPlan.unrestricted.Absorbs := ⟨rfl, rfl, rfl, by decide, fun _ => rfl⟩
  have moves : Reaches (fun _ => False) eagerTunnel (eagerTunnel.runUntil 100) :=
    (Tunnel.takesTurns_advance _ _ eagerTunnel).reaches
  have exits : (eagerTunnel.runUntil 100).relays.map Relay.exit? =
      [some (.eof, 45), some (.closed, 45)] := by decide +kernel
  have decisions : (eagerTunnel.runUntil 100).relays.map (·.phase.decided?) =
      [some .eof, some .closed] := by decide +kernel
  have left : (eagerTunnel.runUntil 100).LeftTo 0 := by
    intro place other exit ne ho decided
    have here := congrArg (·[place]?) decisions
    simp only [List.getElem?_map, ho, Option.map_some, decided] at here
    match place, ne with
    | 1, _ => exact Option.some.inj (Option.some.inj here)
    | place + 2, _ => cases here
  have started : eagerTunnel.relays[0]? = some (.begin .clientToDestination 40 2 eagerTalk.2.source
      (.ofPlan .unrestricted) eagerTunnel.now) := rfl
  have calls (operation : Operation) (never : False) : operation ≠ .shutdown := never.elim
  obtain ⟨known, conveyed, -⟩ := early_data_conveyed encoded (by decide) slow_welcomes ends inTime
    rfl started (by decide +kernel) rfl (by decide) (by decide) absorbs
    (by decide) calls
  obtain ⟨relay, place, whole, -⟩ := conveyed _ moves left
  have exited : relay.exit? = some (.eof, 45) := by
    have here := congrArg (·[0]?) exits
    simpa [place] using here
  exact ⟨known, moves, relay, place, exited, (whole _ _ exited).2⟩

end TunnelServer
