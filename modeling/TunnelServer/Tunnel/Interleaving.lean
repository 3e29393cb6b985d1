import TunnelServer.Tunnel.Basic

/-! # Turns are made of moves

A relay only ever adds to what it reported. So what a turn reports is what its steps report one
after another, and whatever taking turns can bring about, moves can bring about in some order.
-/

namespace TunnelServer

namespace Relay

theorem isPrefix_log_poll (now deadline : Nat) (relay : Relay) :
    relay.log <+: (relay.poll now deadline).log := by
  simp only [poll]
  split
  · exact List.prefix_refl _
  · exact List.prefix_refl _
  · exact List.prefix_refl _
  · split <;> exact List.prefix_refl _

theorem isPrefix_log_push (now : Nat) (rest : List UInt8) (relay : Relay) :
    relay.log <+: (relay.push now rest).log := by
  simp only [push]
  split
  · exact List.prefix_refl _
  · exact List.prefix_refl _
  · exact List.prefix_refl _
  · split <;> exact List.prefix_refl _

theorem isPrefix_log_flush (now : Nat) (relay : Relay) : relay.log <+: (relay.flush now).log := by
  simp only [flush]
  split <;> exact List.prefix_refl _

theorem isPrefix_log_complete (now : Nat) (debug : Bool) (relay : Relay) :
    relay.log <+: (relay.complete now debug).log := by
  simp only [complete]
  split
  · exact List.prefix_append ..
  · exact List.prefix_refl _

theorem isPrefix_log_closeSink (now : Nat) (exit : RelayExit) (relay : Relay) :
    relay.log <+: (relay.closeSink now exit).log := by
  simp only [closeSink]
  split
  · exact List.prefix_refl _
  · exact List.prefix_append ..
  · exact List.prefix_refl _

theorem isPrefix_log_of_drain? {now deadline : Nat} {exit : RelayExit} {relay after : Relay}
    (h : relay.drain? now exit deadline = some after) : relay.log <+: after.log := by
  simp only [drain?] at h
  split at h
  · exact Option.some.inj h ▸ List.prefix_refl _
  · exact Option.some.inj h ▸ List.prefix_append ..
  · obtain ⟨-, rfl⟩ := by simpa using h
    exact List.prefix_append ..

theorem isPrefix_log_of_step? {now : Nat} {relay after : Relay} {context shared : Context}
    (h : relay.step? now context = some (after, shared)) : relay.log <+: after.log := by
  cases phase : relay.phase with
  | polling =>
    simp only [step?, phase, Option.some.injEq, Prod.mk.injEq] at h
    exact h.1 ▸ isPrefix_log_poll ..
  | offering =>
    simp only [step?, phase, Option.some.injEq, Prod.mk.injEq] at h
    exact h.1 ▸ isPrefix_log_push ..
  | flushing =>
    simp only [step?, phase, Option.some.injEq, Prod.mk.injEq] at h
    exact h.1 ▸ isPrefix_log_flush ..
  | recording =>
    simp only [step?, phase, Option.some.injEq, Prod.mk.injEq] at h
    exact h.1 ▸ isPrefix_log_complete ..
  | closingSink =>
    simp only [step?, phase, Option.some.injEq, Prod.mk.injEq] at h
    exact h.1 ▸ isPrefix_log_closeSink ..
  | finished => simp [step?, phase] at h
  | reading | breaking | writing | settling =>
    simp only [step?, phase, Option.some.injEq, Prod.mk.injEq] at h
    exact h.1 ▸ List.prefix_refl _
  | leaving =>
    simp only [step?, phase, Option.some.injEq, Prod.mk.injEq] at h
    exact h.1 ▸ List.prefix_append ..
  | awaitingData | awaitingRoom =>
    simp only [step?, phase, Option.ite_none_right_eq_some, Option.some.injEq,
      Prod.mk.injEq] at h
    exact h.2.1 ▸ List.prefix_refl _
  | draining =>
    simp only [step?, phase, Option.map_eq_some_iff, Prod.mk.injEq] at h
    obtain ⟨drained, hd, rfl, -⟩ := h
    exact isPrefix_log_of_drain? hd
  | overdue =>
    simp only [step?, phase] at h
    split at h <;> cases h <;> exact List.prefix_refl _
  | judging =>
    simp only [step?, phase] at h
    split at h <;> cases h
    · exact List.prefix_refl _
    · exact List.prefix_append ..

end Relay

namespace Tunnel

theorem replace_replace {tunnel : Tunnel} {index : Nat} {relay next after : Relay}
    {shared context : Context} (h : relay.log <+: next.log) (h' : next.log <+: after.log) :
    (tunnel.replace index relay next shared).replace index next after context =
      tunnel.replace index relay after context := by
  obtain ⟨added, h⟩ := h
  obtain ⟨later, h'⟩ := h'
  simp [replace, ← h', ← h]

theorem replace_self {tunnel : Tunnel} {index : Nat} {relay : Relay}
    (h : tunnel.relays[index]? = some relay) :
    tunnel.replace index relay relay tunnel.context = tunnel := by
  obtain ⟨bound, rfl⟩ := List.getElem?_eq_some_iff.1 h
  simp [replace]

theorem reaches_of_runs {allowed : Operation → Prop} {tunnel : Tunnel} {index : Nat}
    {relay after : Relay} {context shared : Context}
    (run : relay.Runs tunnel.now context after shared) (h : tunnel.relays[index]? = some relay)
    (same : tunnel.context = context) :
    relay.log <+: after.log ∧
      Reaches allowed tunnel (tunnel.replace index relay after shared) := by
  generalize moment : tunnel.now = now at run
  induction run generalizing tunnel with
  | waits =>
    subst same
    refine ⟨List.prefix_refl _, ?_⟩
    rw [replace_self h]
    exact .refl
  | @steps relay context next between after shared step _ ih =>
    subst same moment
    have first := Relay.isPrefix_log_of_step? step
    obtain ⟨bound, -⟩ := List.getElem?_eq_some_iff.1 h
    have place : (tunnel.replace index relay next between).relays[index]? = some next := by
      simp [replace, bound]
    obtain ⟨rest, reached⟩ := ih place rfl rfl
    refine ⟨first.trans rest, ?_⟩
    rw [replace_replace first rest] at reached
    exact (Reaches.tail .refl (.step h step)).trans reached

theorem Turn.reaches {allowed : Operation → Prop} {tunnel after : Tunnel}
    (h : Turn allowed tunnel after) : Reaches allowed tunnel after := by
  cases h with
  | run place run => exact (reaches_of_runs run place rfl).2
  | elapse later idle => exact .tail .refl (.elapse later idle)
  | call may => exact .tail .refl (.call may)

/-- What turns can bring about, moves can. -/
theorem TakesTurns.reaches {allowed : Operation → Prop} {tunnel after : Tunnel}
    (h : TakesTurns allowed tunnel after) : Reaches allowed tunnel after := by
  induction h with
  | refl => exact .refl
  | tail _ turn ih => exact ih.trans turn.reaches

end Tunnel

end TunnelServer
