import TunnelServer.Proofs.Tunnel.Agreement

/-!
# Time goes on

Between two ticks of the clock the relays of a tunnel make finitely many steps: a step of one of them
brings that one nearer to waiting, and the others no further from it. So whatever a tunnel has come
to, it can go on to any later time.
-/

namespace TunnelServer

namespace Relay

theorem rank_closing_le (now : Nat) (closing : Bool) (phase : Phase) :
    rank now true phase ≤ rank now closing phase := by
  cases closing with
  | true => exact Nat.le_refl _
  | false =>
    cases phase with
    | reading | awaitingData | awaitingRoom =>
      simp only [rank, if_true, Bool.false_eq_true, if_false]
      split <;> omega
    | writing =>
      simp only [rank, if_true, Bool.false_eq_true, if_false]
      omega
    | _ => exact Nat.le_refl _

/-- A relay without a step waits for data, for room or for its sink, or is finished. -/
theorem waiting_of_step? {now : Nat} {context : Context} {relay : Relay}
    (h : relay.step? now context = none) :
    (∃ deadline wake, relay.phase = .awaitingData deadline wake) ∨
    (∃ rest release, relay.phase = .awaitingRoom rest release) ∨
    (∃ exit deadline, relay.phase = .draining exit deadline) ∨
    ∃ exit time, relay.phase = .finished exit time := by
  cases hp : relay.phase with
  | awaitingData | awaitingRoom | draining | finished => simp
  | overdue | judging =>
    simp only [step?, hp] at h
    split at h <;> cases h
  | _ => simp [step?, hp] at h

theorem Idles.le_of_draining {now later deadline : Nat} {context : Context} {relay : Relay}
    {exit : RelayExit} (h : relay.Idles now context later)
    (hp : relay.phase = .draining exit deadline) : later ≤ deadline := by
  have wake := h.2 (min deadline (relay.sink.plan.shutdown.due?.getD deadline)) (by simp [wake?, hp])
  exact Nat.le_trans wake (Nat.min_le_left ..)

theorem potential_le {context shared : Context} (h : context.closing = true → shared.closing = true)
    (now : Nat) (relay : Relay) : relay.potential now shared ≤ relay.potential now context := by
  apply Nat.add_le_add_left
  cases hc : context.closing with
  | true => exact Nat.le_of_eq (by rw [h hc])
  | false =>
    cases hs : shared.closing with
    | true => exact rank_closing_le now false relay.phase
    | false => exact Nat.le_refl _

end Relay

namespace Tunnel

section total

variable {α : Type} {before after : α → Nat} {items : List α}

/-- The sum of what the items come to. -/
def total (weight : α → Nat) (items : List α) : Nat :=
  items.foldr (fun item rest => weight item + rest) 0

theorem total_le (le : ∀ a, after a ≤ before a) : total after items ≤ total before items := by
  induction items with
  | nil => exact Nat.le_refl _
  | cons item items ih => exact Nat.add_le_add (le item) ih

theorem total_set_lt (le : ∀ a, after a ≤ before a) {index : Nat} {a b : α}
    (place : items[index]? = some a) (lt : after b < before a) :
    total after (items.set index b) < total before items := by
  induction items generalizing index with
  | nil => cases place
  | cons item items ih =>
    cases index with
    | zero =>
      obtain rfl : item = a := Option.some.inj place
      exact Nat.add_lt_add_of_lt_of_le lt (total_le le)
    | succ index => exact Nat.add_lt_add_of_le_of_lt (le item) (ih place)

end total

/-- How many steps the relays can make before the clock has to go on. -/
def unrest (tunnel : Tunnel) : Nat :=
  total (Relay.potential tunnel.now tunnel.context) tunnel.relays

variable {allowed : Operation → Prop} {tunnel : Tunnel} {index : Nat} {relay after : Relay}
  {context : Context}

theorem unrest_replace_lt (place : tunnel.relays[index]? = some relay)
    (step : relay.step? tunnel.now tunnel.context = some (after, context)) :
    (tunnel.replace index relay after context).unrest < tunnel.unrest := by
  have grows := (Relay.Step.of_step? step).grows
  exact total_set_lt (Relay.potential_le grows.closing tunnel.now) place
    (Relay.potential_lt_of_step? step)

/-- The relays can come to wait without the clock going on. -/
theorem exists_all_wait (allowed : Operation → Prop) (tunnel : Tunnel) :
    ∃ last, Reaches allowed tunnel last ∧ last.now = tunnel.now ∧
      ∀ relay ∈ last.relays, relay.step? last.now last.context = none := by
  induction hn : tunnel.unrest using Nat.strongRecOn generalizing tunnel with
  | _ unrest ih =>
    by_cases waits : ∀ relay ∈ tunnel.relays, relay.step? tunnel.now tunnel.context = none
    · exact ⟨tunnel, .refl, rfl, waits⟩
    · obtain ⟨relay, mem, busy⟩ : ∃ relay ∈ tunnel.relays,
          relay.step? tunnel.now tunnel.context ≠ none := by simpa using waits
      obtain ⟨⟨after, context⟩, step⟩ := Option.ne_none_iff_exists'.mp busy
      obtain ⟨index, place⟩ := List.mem_iff_getElem?.mp mem
      have less := unrest_replace_lt place step
      obtain ⟨last, reached, clock, waits⟩ := ih _ (hn ▸ less) _ rfl
      exact ⟨last, (Reaches.tail .refl (.step place step)).trans reached, clock, waits⟩

theorem tick (waits : ∀ relay ∈ tunnel.relays, relay.step? tunnel.now tunnel.context = none) :
    Move allowed tunnel { tunnel with now := tunnel.now + 1 } := by
  refine .elapse (Nat.le_succ _) fun relay mem => ⟨waits relay mem, fun wake hw => ?_⟩
  exact Relay.lt_wake_of_step? (waits relay mem) hw

/-- A tunnel can go on to any time. -/
theorem exists_reaches_le_now (allowed : Operation → Prop) (tunnel : Tunnel) (time : Nat) :
    ∃ last, Reaches allowed tunnel last ∧ time ≤ last.now := by
  induction time with
  | zero => exact ⟨tunnel, .refl, Nat.zero_le _⟩
  | succ time ih =>
    obtain ⟨middle, reached, past⟩ := ih
    obtain ⟨last, settled, clock, waits⟩ := exists_all_wait allowed middle
    exact ⟨_, (reached.trans settled).tail (tick waits), by show time < last.now + 1; omega⟩

end Tunnel

end TunnelServer
