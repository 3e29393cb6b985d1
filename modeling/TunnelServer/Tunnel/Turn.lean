import TunnelServer.Tunnel.Basic

/-! # Turns of a relay

A relay that is not interrupted makes a bounded number of steps at one moment: every step lowers a
potential that counts the bytes still to come and how far the relay is from waiting. So a turn can
be computed, and it ends with a relay that waits.
-/

namespace TunnelServer

theorem Context.window_pos_of_wroteWithin {context : Context} {now window : Nat}
    {direction : Direction} (h : context.wroteWithin now direction window = true) :
    0 < window := by
  apply Nat.pos_of_ne_zero
  rintro rfl
  simp [wroteWithin] at h

namespace Relay

/-- How far a relay is from waiting, apart from the bytes still to come. -/
def rank (now : Nat) (closing : Bool) : Phase → Nat
  | .finished .. => 0
  | .draining .. => 1
  | .closingSink _ => 2
  | .settling _ => 3
  | .leaving _ => 4
  | .breaking _ => 5
  | .judging _ => 6
  | .reading deadline => if closing then 5 else if deadline ≤ now then 13 else 9
  | .polling deadline => if deadline ≤ now then 12 else 8
  | .awaitingData deadline wake =>
    if closing then 6 else if deadline ≤ now || isDue now wake then 14 else 7
  | .overdue => 11
  | .writing rest => if closing then 5 else 17 + 3 * rest.length
  | .offering rest => 16 + 3 * rest.length
  | .awaitingRoom rest release =>
    if closing then 6 else if isDue now release then 18 + 3 * rest.length
    else 14 + 3 * rest.length
  | .flushing => 15
  | .recording => 14

/-- A bound on the steps that a relay makes before it has to wait. -/
def potential (now : Nat) (context : Context) (relay : Relay) : Nat :=
  13 * Source.load relay.source.script + rank now context.closing relay.phase

theorem potential_poll_lt {now deadline : Nat} {relay : Relay} {context : Context}
    (h : relay.phase = .polling deadline) :
    (relay.poll now deadline).potential now context < relay.potential now context := by
  have given := @Source.load_of_pollScript_bytes relay.bufferSize now relay.source.script
  have less := Source.load_pollScript_le relay.bufferSize now relay.source.script
  have later := fun wake rest =>
    @Source.lt_of_pollScript_pending relay.bufferSize now wake relay.source.script rest
  simp only [potential, h, poll, Source.poll]
  generalize Source.pollScript relay.bufferSize now relay.source.script = answer at *
  obtain ⟨answer, rest⟩ := answer
  cases answer with
  | bytes chunk =>
    -- each byte pays for the steps that it takes to write it, and the first one for all others
    obtain ⟨split, some⟩ := given rfl
    simp only [enter, rank]
    split <;> split <;> omega
  | endOfStream | fault kind =>
    simp only [enter, rank]
    simp only at less
    split <;> omega
  | pending wake =>
    have idle : isDue now wake = false := by
      cases wake with
      | none => rfl
      | some time => simpa [isDue] using later time rest rfl
    simp only at less
    by_cases late : deadline ≤ now
    · simp only [enter, rank, late, if_true]
      omega
    · simp only [enter, rank, late, idle, if_false, decide_false, Bool.or_self, Bool.false_eq_true]
      split <;> omega

theorem potential_push_lt {now : Nat} {rest : List UInt8} {relay : Relay} {context : Context}
    (h : relay.phase = .offering rest) :
    (relay.push now rest).potential now context < relay.potential now context := by
  have later := fun release => @Sink.lt_of_offer_pending relay.sink now release rest.length
  simp only [potential, h, push, ask, Sink.offer_call]
  generalize relay.sink.offer now rest.length = offer at *
  split
  · simp only [enter, rank]
    omega
  · rename_i release
    have idle : isDue now release = false := by
      cases release with
      | none => rfl
      | some time => simpa [isDue] using later time rfl
    simp only [enter, rank, idle, if_false, Bool.false_eq_true]
    split <;> omega
  · simp only [enter, rank]
    omega
  · rename_i count some
    split
    · simp only [enter, rank]
      omega
    · rename_i left nonempty
      have shorter := congrArg List.length (List.take_append_drop count rest)
      have : 0 < count := Nat.pos_of_ne_zero fun none => some none
      have : 0 < rest.length := by
        apply List.length_pos_iff.2
        rintro rfl
        exact nonempty List.drop_nil
      simp only [enter, rank, List.length_drop]
      omega

theorem potential_flush_lt {now : Nat} {relay : Relay} {context : Context}
    (h : relay.phase = .flushing) :
    (relay.flush now).potential now context < relay.potential now context := by
  simp only [potential, h, flush]
  split
  · simp only [enter, rank, ask]
    omega
  · rename_i release pending
    have idle : isDue now release = false := by
      have later := (Completion.reply_of_pending pending).2
      cases release with
      | none => rfl
      | some time => simpa [isDue] using later
    simp only [enter, rank, ask, idle, List.length_nil, if_false, Bool.false_eq_true]
    split <;> omega
  · simp only [enter, rank, ask]
    omega

theorem potential_drain?_lt {now deadline : Nat} {exit : RelayExit} {relay after : Relay}
    {context : Context} (h : relay.phase = .draining exit deadline)
    (h' : relay.drain? now exit deadline = some after) :
    after.potential now context < relay.potential now context := by
  simp only [drain?] at h'
  split at h'
  · cases h'
    simp [potential, rank, enter, h]
  · cases h'
    simp [potential, rank, enter, report, h]
  · obtain ⟨-, rfl⟩ := by simpa using h'
    simp [potential, rank, enter, report, h]

/-- Every step lowers the potential. -/
theorem potential_lt_of_step? {now : Nat} {relay after : Relay} {context shared : Context}
    (h : relay.step? now context = some (after, shared)) :
    after.potential now shared < relay.potential now context := by
  cases phase : relay.phase with
  | polling deadline =>
    simp only [step?, phase, Option.some.injEq, Prod.mk.injEq] at h
    obtain ⟨rfl, rfl⟩ := h
    exact potential_poll_lt phase
  | offering rest =>
    simp only [step?, phase, Option.some.injEq, Prod.mk.injEq] at h
    obtain ⟨rfl, rfl⟩ := h
    exact potential_push_lt phase
  | flushing =>
    simp only [step?, phase, Option.some.injEq, Prod.mk.injEq] at h
    obtain ⟨rfl, rfl⟩ := h
    exact potential_flush_lt phase
  | reading deadline =>
    simp only [step?, phase, Option.some.injEq, Prod.mk.injEq] at h
    obtain ⟨rfl, rfl⟩ := h
    cases closing : context.closing
    · by_cases late : deadline ≤ now <;> simp [potential, rank, enter, phase, closing, late]
    · simp [potential, rank, enter, phase, closing]
  | awaitingData deadline wake =>
    simp only [step?, phase] at h
    split at h
    · rename_i due
      simp only [Option.some.injEq, Prod.mk.injEq] at h
      obtain ⟨rfl, rfl⟩ := h
      cases closing : context.closing
      · rw [closing, Bool.false_or] at due
        simp only [potential, rank, enter, phase, closing, due, if_true, if_false,
          Bool.false_eq_true]
        split <;> omega
      · simp [potential, rank, enter, phase, closing]
    · cases h
  | overdue =>
    simp only [step?, phase] at h
    split at h
    · rename_i busy
      -- the window is not empty, so the new deadline lies ahead and the rank goes down
      have := Context.window_pos_of_wroteWithin busy
      simp only [Option.some.injEq, Prod.mk.injEq] at h
      obtain ⟨rfl, rfl⟩ := h
      have : ¬ now + relay.timeout ≤ now := by omega
      simp only [potential, rank, enter, phase, this, if_false]
      split <;> omega
    · simp only [Option.some.injEq, Prod.mk.injEq] at h
      obtain ⟨rfl, rfl⟩ := h
      simp [potential, rank, enter, phase]
  | judging cause =>
    simp only [step?, phase] at h
    split at h
    · simp only [Option.some.injEq, Prod.mk.injEq] at h
      obtain ⟨rfl, rfl⟩ := h
      simp [potential, rank, enter, phase]
    · simp only [Option.some.injEq, Prod.mk.injEq] at h
      obtain ⟨rfl, rfl⟩ := h
      cases cause.breaks <;> simp [potential, rank, enter, report, phase]
  | breaking exit =>
    simp only [step?, phase, Option.some.injEq, Prod.mk.injEq] at h
    obtain ⟨rfl, rfl⟩ := h
    simp [potential, rank, enter, phase]
  | writing rest =>
    simp only [step?, phase, Option.some.injEq, Prod.mk.injEq] at h
    obtain ⟨rfl, rfl⟩ := h
    cases closing : context.closing
    · by_cases none : rest = [] <;> simp [potential, rank, enter, phase, closing, none]
    · simp [potential, rank, enter, phase, closing]
  | awaitingRoom rest release =>
    simp only [step?, phase] at h
    split at h
    · rename_i due
      simp only [Option.some.injEq, Prod.mk.injEq] at h
      obtain ⟨rfl, rfl⟩ := h
      cases closing : context.closing
      · rw [closing, Bool.false_or] at due
        simp [potential, rank, enter, phase, closing, due]
      · simp [potential, rank, enter, phase, closing]
    · cases h
  | recording =>
    simp only [step?, phase, Option.some.injEq, Prod.mk.injEq] at h
    obtain ⟨rfl, rfl⟩ := h
    simp only [potential, complete]
    split <;> simp only [rank, enter, report, phase] <;> split <;> try split
    all_goals omega
  | leaving exit =>
    simp only [step?, phase, Option.some.injEq, Prod.mk.injEq] at h
    obtain ⟨rfl, rfl⟩ := h
    simp [potential, rank, enter, phase]
  | settling exit =>
    simp only [step?, phase, Option.some.injEq, Prod.mk.injEq] at h
    obtain ⟨rfl, rfl⟩ := h
    cases context.broken <;> simp [potential, rank, enter, phase]
  | closingSink exit =>
    simp only [step?, phase, Option.some.injEq, Prod.mk.injEq] at h
    obtain ⟨rfl, rfl⟩ := h
    simp only [potential, closeSink, ask]
    split <;> simp [rank, enter, report, phase]
  | draining exit deadline =>
    simp only [step?, phase, Option.map_eq_some_iff, Prod.mk.injEq] at h
    obtain ⟨drained, hd, rfl, rfl⟩ := h
    exact potential_drain?_lt phase hd
  | finished exit time => simp [step?, phase] at h

/-- Lets a relay run until it waits, or until so many steps were made. -/
def runFor (now : Nat) : Nat → Relay → Context → Relay × Context
  | 0, relay, context => (relay, context)
  | steps + 1, relay, context =>
    match relay.step? now context with
    | none => (relay, context)
    | some (next, shared) => runFor now steps next shared

def run (now : Nat) (relay : Relay) (context : Context) : Relay × Context :=
  relay.runFor now (relay.potential now context) context

theorem runs_runFor {now steps : Nat} {relay : Relay} {context : Context}
    (h : relay.potential now context ≤ steps) :
    relay.Runs now context (relay.runFor now steps context).1
      (relay.runFor now steps context).2 := by
  induction steps generalizing relay context with
  | zero =>
    refine .waits (Option.eq_none_iff_forall_ne_some.2 fun after step => ?_)
    have := potential_lt_of_step? step
    omega
  | succ steps ih =>
    cases step : relay.step? now context with
    | none => simpa only [runFor, step] using .waits step
    | some after =>
      have := potential_lt_of_step? step
      simpa only [runFor, step] using .steps step (ih (by omega))

/-- A relay that is left to itself comes to wait, as its run computes. -/
theorem runs_run (now : Nat) (relay : Relay) (context : Context) :
    relay.Runs now context (relay.run now context).1 (relay.run now context).2 :=
  runs_runFor (Nat.le_refl _)

theorem Runs.unique {now : Nat} {relay first second : Relay} {context shared other : Context}
    (h : relay.Runs now context first shared) (h' : relay.Runs now context second other) :
    first = second ∧ shared = other := by
  induction h with
  | waits stuck =>
    cases h' with
    | waits => exact ⟨rfl, rfl⟩
    | steps step => simp [stuck] at step
  | steps step _ ih =>
    cases h' with
    | waits stuck => simp [stuck] at step
    | steps step' rest =>
      obtain ⟨rfl, rfl⟩ := by simpa [step] using step'
      exact ih rest

theorem runs_iff {now : Nat} {relay after : Relay} {context shared : Context} :
    relay.Runs now context after shared ↔ relay.run now context = (after, shared) := by
  constructor
  · intro h
    obtain ⟨rfl, rfl⟩ := (runs_run now relay context).unique h
    rfl
  · intro h
    simpa only [h] using runs_run now relay context

end Relay

end TunnelServer
