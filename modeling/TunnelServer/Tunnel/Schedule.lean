import TunnelServer.Tunnel.Turn

/-! # Running a tunnel

The relays take turns in the order in which they were started, until all of them wait; then the
clock goes on to the next moment at which one of them has something to do. What comes about in this
way is one of the ways in which a tunnel can move.
-/

namespace TunnelServer

namespace Relay

def waits (now : Nat) (context : Context) (relay : Relay) : Bool :=
  (relay.step? now context).isNone

theorem drain?_eq_none_iff {now deadline : Nat} {exit : RelayExit} {relay : Relay} :
    relay.drain? now exit deadline = none ↔
      now < min deadline (relay.sink.plan.shutdown.due?.getD deadline) := by
  simp only [drain?, Sink.shutdownReply]
  cases relay.sink.plan.shutdown with
  | hangs => simp [Completion.reply, Completion.due?]
  | succeeds due | fails kind due =>
    by_cases early : now < due <;> simp [Completion.reply, Completion.due?, early] <;> omega

/-- A relay that waits has nothing to do before its next moment, which is still to come. -/
theorem lt_wake_of_step? {now wake : Nat} {relay : Relay} {context : Context}
    (h : relay.step? now context = none) (h' : relay.wake? = some wake) : now < wake := by
  cases phase : relay.phase with
  | awaitingData deadline due =>
    simp only [step?, phase, ite_eq_right_iff, Bool.or_eq_true, decide_eq_true_eq, reduceCtorEq,
      imp_false, not_or, Nat.not_le, isDue, Bool.not_eq_true] at h
    simp only [wake?, phase, Option.some.injEq] at h'
    cases due with
    | none =>
      simp only [Option.getD_none, Nat.min_self] at h'
      exact h' ▸ h.1.2
    | some time =>
      simp only [Option.any_some, decide_eq_false_iff_not, Nat.not_le] at h
      simp only [Option.getD_some] at h'
      omega
  | awaitingRoom rest release =>
    simp only [wake?, phase] at h'
    subst h'
    simp only [step?, phase, isDue, Option.any_some, ite_eq_right_iff, Bool.or_eq_true,
      decide_eq_true_eq, reduceCtorEq, imp_false, not_or, Nat.not_le] at h
    exact h.2
  | draining exit deadline =>
    simp only [step?, phase, Option.map_eq_none_iff] at h
    simp only [wake?, phase, Option.some.injEq] at h'
    exact h' ▸ drain?_eq_none_iff.mp h
  | _ => simp [wake?, phase] at h'

end Relay

namespace Tunnel

def turn (tunnel : Tunnel) (index : Nat) : Tunnel :=
  match tunnel.relays[index]? with
  | none => tunnel
  | some relay =>
    let (after, context) := relay.run tunnel.now tunnel.context
    tunnel.replace index relay after context

def round (tunnel : Tunnel) : Tunnel := (List.range tunnel.relays.length).foldl turn tunnel

def allWait (tunnel : Tunnel) : Bool := tunnel.relays.all (Relay.waits tunnel.now tunnel.context)

/-- The next moment at which a waiting relay has something to do. -/
def next? (tunnel : Tunnel) : Option Nat := (tunnel.relays.filterMap Relay.wake?).min?

/-- Lets the relays run and the clock go on, until all relays wait and `stop` holds, nothing is left
to do, or the next thing to do comes after the limit; at most so many rounds. -/
def advanceFor (limit : Option Nat) (stop : Tunnel → Bool) : Nat → Tunnel → Tunnel
  | 0, tunnel => tunnel
  | rounds + 1, tunnel =>
    if !tunnel.allWait then advanceFor limit stop rounds tunnel.round
    else if stop tunnel then tunnel
    else
      match tunnel.next? with
      | none => tunnel
      | some time =>
        if limit.any (· < time) then tunnel
        else advanceFor limit stop rounds { tunnel with now := time }

/-- Enough rounds for a tunnel: the clock goes on when data arrives, when a stall is over, when a
chunk is flushed, when a read takes too long, which is retried only after the other direction wrote,
and when a sink is shut down or given up. -/
def effort (tunnel : Tunnel) : Nat :=
  16 + 6 * tunnel.relays.foldr (fun relay total => relay.source.script.length +
    Source.load relay.source.script + relay.sink.plan.stalls.length + 4 + total) 0

/-- Lets the relays run and the clock go on, until `stop` holds, nothing is left to do, or the next
thing to do comes after the limit. -/
def advance (limit : Option Nat) (stop : Tunnel → Bool) (tunnel : Tunnel) : Tunnel :=
  advanceFor limit stop tunnel.effort tunnel

def runUntil (limit : Nat) (tunnel : Tunnel) : Tunnel := tunnel.advance (some limit) fun _ => false

/-! ## The schedule is one way to move -/

variable {allowed : Operation → Prop}

theorem takesTurns_turn (tunnel : Tunnel) (index : Nat) :
    TakesTurns allowed tunnel (tunnel.turn index) := by
  cases h : tunnel.relays[index]? with
  | none => simpa only [turn, h] using .refl
  | some relay =>
    simpa only [turn, h] using .tail .refl (.run h (Relay.runs_run tunnel.now relay _))

theorem takesTurns_foldl_turn (indices : List Nat) (tunnel : Tunnel) :
    TakesTurns allowed tunnel (indices.foldl turn tunnel) := by
  induction indices generalizing tunnel with
  | nil => exact .refl
  | cons index indices ih => exact (takesTurns_turn tunnel index).trans (ih _)

theorem takesTurns_round (tunnel : Tunnel) : TakesTurns allowed tunnel tunnel.round :=
  takesTurns_foldl_turn _ tunnel

theorem turn_next {tunnel : Tunnel} {time : Nat} (waits : tunnel.allWait = true)
    (h : tunnel.next? = some time) : Turn allowed tunnel { tunnel with now := time } := by
  have idle (relay : Relay) (mem : relay ∈ tunnel.relays) :
      relay.step? tunnel.now tunnel.context = none := by
    simpa [Relay.waits] using List.all_eq_true.1 waits relay mem
  obtain ⟨mem, least⟩ := List.min?_eq_some_iff.1 h
  obtain ⟨relay, hrelay, wake⟩ := List.mem_filterMap.1 mem
  refine .elapse (Nat.le_of_lt (Relay.lt_wake_of_step? (idle relay hrelay) wake)) ?_
  intro other hother
  exact ⟨idle other hother, fun wake hwake =>
    least wake (List.mem_filterMap.2 ⟨other, hother, hwake⟩)⟩

theorem takesTurns_advanceFor (limit : Option Nat) (stop : Tunnel → Bool) (rounds : Nat)
    (tunnel : Tunnel) : TakesTurns allowed tunnel (advanceFor limit stop rounds tunnel) := by
  fun_induction advanceFor limit stop rounds tunnel with
  | case2 rounds tunnel busy ih => exact (takesTurns_round tunnel).trans ih
  | case6 rounds tunnel waits _ time next _ ih =>
    exact (TakesTurns.tail .refl (turn_next (by simpa using waits) next)).trans ih
  | _ => exact .refl

theorem takesTurns_advance (limit : Option Nat) (stop : Tunnel → Bool) (tunnel : Tunnel) :
    TakesTurns allowed tunnel (tunnel.advance limit stop) :=
  takesTurns_advanceFor limit stop _ tunnel

end Tunnel

end TunnelServer
