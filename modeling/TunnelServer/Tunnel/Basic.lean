import TunnelServer.Stream.Endpoint
import TunnelServer.Tunnel.Operation
import TunnelServer.Tunnel.Relay

/-! # Tunnels and their moves

A tunnel is a clock, what the directions share, and the relays. A tunnel moves when a relay makes a
step, when its owner makes a call, or when the clock goes on; the clock goes on only while every
relay waits, and not past the moment at which one of them has something to do. Moves come in any
order. A turn is the coarser move of a relay that is not interrupted before it has to wait.
-/

namespace TunnelServer

structure Tunnel where
  now : Nat
  context : Context
  /-- The relays in the order in which they were started. -/
  relays : List Relay
  /-- What was reported, the first report first. -/
  log : List Notice
deriving DecidableEq, Repr

namespace Relay

/-- Whether the relay has nothing to do before a time, unless what the directions share changes. -/
def Idles (now : Nat) (context : Context) (later : Nat) (relay : Relay) : Prop :=
  relay.step? now context = none ∧ ∀ wake ∈ relay.wake?, later ≤ wake

/-- A relay runs at one moment until it has to wait or is finished. -/
inductive Runs (now : Nat) : Relay → Context → Relay → Context → Prop where
  | waits {relay context} : relay.step? now context = none → Runs now relay context relay context
  | steps {relay context next shared final after} :
      relay.step? now context = some (next, shared) → Runs now next shared final after →
      Runs now relay context final after

end Relay

namespace Tunnel

/-- The tunnel after one of its relays went on; what it reported anew is reported. -/
def replace (tunnel : Tunnel) (index : Nat) (before after : Relay) (context : Context) : Tunnel :=
  { tunnel with
    context
    relays := tunnel.relays.set index after
    log := tunnel.log ++ after.log.drop before.log.length }

def perform (tunnel : Tunnel) (operation : Operation) : Tunnel :=
  { tunnel with
    context := operation.effect tunnel.now tunnel.context
    log := tunnel.log ++ operation.notices tunnel.context }

/-- One move, of which the owner's calls are only those that are allowed. -/
inductive Move (allowed : Operation → Prop) : Tunnel → Tunnel → Prop where
  | step {tunnel index relay after context} :
      tunnel.relays[index]? = some relay →
      relay.step? tunnel.now tunnel.context = some (after, context) →
      Move allowed tunnel (tunnel.replace index relay after context)
  | elapse {tunnel later} :
      tunnel.now ≤ later →
      (∀ relay ∈ tunnel.relays, relay.Idles tunnel.now tunnel.context later) →
      Move allowed tunnel { tunnel with now := later }
  | call {tunnel operation} : allowed operation → Move allowed tunnel (tunnel.perform operation)

inductive Reaches (allowed : Operation → Prop) : Tunnel → Tunnel → Prop where
  | refl {tunnel} : Reaches allowed tunnel tunnel
  | tail {first middle last} :
      Reaches allowed first middle → Move allowed middle last → Reaches allowed first last

/-- One move in which a relay is not interrupted before it has to wait. -/
inductive Turn (allowed : Operation → Prop) : Tunnel → Tunnel → Prop where
  | run {tunnel index relay after context} :
      tunnel.relays[index]? = some relay →
      relay.Runs tunnel.now tunnel.context after context →
      Turn allowed tunnel (tunnel.replace index relay after context)
  | elapse {tunnel later} :
      tunnel.now ≤ later →
      (∀ relay ∈ tunnel.relays, relay.Idles tunnel.now tunnel.context later) →
      Turn allowed tunnel { tunnel with now := later }
  | call {tunnel operation} : allowed operation → Turn allowed tunnel (tunnel.perform operation)

inductive TakesTurns (allowed : Operation → Prop) : Tunnel → Tunnel → Prop where
  | refl {tunnel} : TakesTurns allowed tunnel tunnel
  | tail {first middle last} :
      TakesTurns allowed first middle → Turn allowed middle last → TakesTurns allowed first last

theorem Reaches.trans {allowed : Operation → Prop} {first middle last : Tunnel}
    (h : Reaches allowed first middle) (h' : Reaches allowed middle last) :
    Reaches allowed first last := by
  induction h' with
  | refl => exact h
  | tail _ move ih => exact ih.tail move

theorem TakesTurns.trans {allowed : Operation → Prop} {first middle last : Tunnel}
    (h : TakesTurns allowed first middle) (h' : TakesTurns allowed middle last) :
    TakesTurns allowed first last := by
  induction h' with
  | refl => exact h
  | tail _ turn ih => exact ih.tail turn

/-- What the directions of a tunnel for a client and a destination need to know. -/
structure Setup where
  label : String
  debug : Bool
  /-- The time limit of each read. -/
  timeout : Nat
  bufferSize : Nat

/-- The tunnel that is set up now, with a relay for each direction. -/
def setUp (setup : Setup) (now : Nat) (client destination : Endpoint) : Tunnel where
  now
  context := .fresh setup.label setup.debug now
  relays :=
    [.begin .clientToDestination setup.timeout setup.bufferSize client.source destination.sink now,
      .begin .destinationToClient setup.timeout setup.bufferSize destination.source client.sink now]
  log := []

end Tunnel

end TunnelServer
