import TunnelServer.Proofs.Tunnel.Deadline
import TunnelServer.Proofs.Tunnel.Promptness

/-!
# The ledger of a relay

A relay knows when it last did something: what it has to show is at least the time limit older than
the deadline of the read that it waits for. Every write is for a chunk that was completed later, or
for the newest chunk, which is not completed yet.
-/

namespace TunnelServer

/-- The bytes of writes of which the newest comes first, in the order in which they were accepted. -/
def Written.join (writes : List Written) : List UInt8 :=
  (writes.map Written.bytes).reverse.flatten

@[simp] theorem Written.join_nil : Written.join [] = [] := rfl

@[simp] theorem Written.join_cons (written : Written) (writes : List Written) :
    Written.join (written :: writes) = Written.join writes ++ written.bytes := by
  simp [Written.join]

namespace Relay

/-- At this time the relay took a chunk, had its sink accept something, or completed a chunk. -/
def Active (relay : Relay) (time : Nat) : Prop :=
  (∃ chunk ∈ relay.source.chunks, chunk.time = time) ∨
    (∃ written ∈ relay.sink.writes, written.time = time) ∨ time ∈ relay.completed

variable {window now later : Nat} {relay after : Relay} {context shared : Context}

theorem Step.active {time : Nat} (h : Step now relay context after shared)
    (active : after.Active time) : relay.Active time ∨ time = now := by
  cases h with
  | take =>
    rcases active with ⟨chunk, mem, rfl⟩ | active
    · rcases List.mem_cons.mp mem with rfl | mem
      · exact .inr rfl
      · exact .inl (.inl ⟨chunk, mem, rfl⟩)
    · exact .inl (.inr active)
  | writePart | writeRest =>
    rcases active with active | ⟨written, mem, rfl⟩ | active
    · exact .inl (.inl active)
    · rcases List.mem_cons.mp mem with rfl | mem
      · exact .inr rfl
      · exact .inl (.inr (.inl ⟨written, mem, rfl⟩))
    · exact .inl (.inr (.inr active))
  | record =>
    simp only [Active, source_complete, sink_complete, completed_complete, List.mem_cons] at active
    rcases active with active | active | rfl | active
    · exact .inl (.inl active)
    · exact .inl (.inr (.inl active))
    · exact .inr rfl
    · exact .inl (.inr (.inr active))
  | _ => exact .inl active

/-- What a relay with this time limit has done lies in the past, and at least the limit before the
deadline of a read. -/
structure Rests (window now : Nat) (relay : Relay) : Prop where
  timeout_eq : relay.timeout = window
  past : ∀ time, relay.Active time → time ≤ now
  ahead : ∀ deadline, relay.phase.deadline? = some deadline →
    ∀ time, relay.Active time → time + window ≤ deadline
  overdue : relay.phase = .overdue → ∀ time, relay.Active time → time + window ≤ now

theorem Rests.step (h : relay.Rests window now) (step : Step now relay context after shared) :
    after.Rests window now := by
  have timeout_eq := step.setup_eq.2.1.trans h.timeout_eq
  have past (time : Nat) (active : after.Active time) : time ≤ now :=
    (step.active active).elim (h.past time) Nat.le_of_eq
  -- a read that begins now has all of its limit before it
  have fresh {deadline : Nat} (same : some (now + relay.timeout) = some deadline) (time : Nat)
      (active : after.Active time) : time + window ≤ deadline := by
    have early := past time active
    rw [Option.some.injEq, h.timeout_eq] at same
    omega
  refine ⟨timeout_eq, past, ?_, ?_⟩
  · intro deadline hd
    cases step with
    | tryRead hp | awaitData hp | resumeRead hp =>
      exact h.ahead deadline (by rw [hp]; exact hd)
    | retryRead => exact fresh hd
    | record =>
      rw [phase_complete] at hd
      exact fresh hd
    | judge =>
      rw [phase_enter] at hd
      split at hd <;> cases hd
    | _ => cases hd
  · intro hp
    cases step with
    | missDeadline hq _ late =>
      intro time active
      exact Nat.le_trans (h.ahead _ (by rw [hq]; rfl) time active) late
    | record =>
      rw [phase_complete] at hp
      cases hp
    | judge =>
      rw [phase_enter] at hp
      split at hp <;> cases hp
    | _ => cases hp

theorem Rests.elapse (h : relay.Rests window now) (goes : now ≤ later) :
    relay.Rests window later where
  timeout_eq := h.timeout_eq
  past time active := Nat.le_trans (h.past time active) goes
  ahead := h.ahead
  overdue hp time active := Nat.le_trans (h.overdue hp time active) goes

/-- The newest chunk, which is not completed, has these bytes. -/
def OnChunk (relay : Relay) (bytes : List UInt8) : Prop :=
  ∃ time older, relay.source.chunks = ⟨time, bytes⟩ :: older ∧
    older.length = relay.completed.length

/-- What was written of the newest chunk since the last one was completed. -/
def HasPart (relay : Relay) (recent : List Written) : Prop :=
  match relay.phase with
  | .writing rest | .offering rest | .awaitingRoom rest _ =>
    relay.OnChunk (Written.join recent ++ rest)
  | .flushing | .recording => relay.OnChunk (Written.join recent)
  | .judging (.writeFault _) => ∃ rest, relay.OnChunk (Written.join recent ++ rest)
  | phase =>
    recent = [] ∧ relay.source.chunks.length = relay.completed.length ∨
      phase.decided?.isSome ∧ ∃ rest, relay.OnChunk (Written.join recent ++ rest)

theorem HasPart.level_or {recent : List Written} (h : relay.HasPart recent) :
    recent = [] ∧ relay.source.chunks.length = relay.completed.length ∨
      ∃ rest, relay.OnChunk (Written.join recent ++ rest) := by
  unfold HasPart at h
  split at h
  · exact .inr ⟨_, h⟩
  · exact .inr ⟨_, h⟩
  · exact .inr ⟨_, h⟩
  · exact .inr ⟨[], by rwa [List.append_nil]⟩
  · exact .inr ⟨[], by rwa [List.append_nil]⟩
  · exact .inr h
  · exact h.imp id And.right

theorem hasPart_of_decided {recent : List Written} {exit : RelayExit}
    (hd : relay.phase.decided? = some exit)
    (h : recent = [] ∧ relay.source.chunks.length = relay.completed.length ∨
      ∃ rest, relay.OnChunk (Written.join recent ++ rest)) : relay.HasPart recent := by
  have part : recent = [] ∧ relay.source.chunks.length = relay.completed.length ∨
      relay.phase.decided?.isSome ∧ ∃ rest, relay.OnChunk (Written.join recent ++ rest) :=
    h.imp id fun held => ⟨by rw [hd]; rfl, held⟩
  unfold HasPart
  cases hp : relay.phase <;> rw [hp] at hd part <;> first | exact part | cases hd

/-- Each write is from no later than the completion of a chunk, or for the newest chunk, which is not
completed. -/
structure Ledger (relay : Relay) : Prop where
  /-- The newest completion comes first. -/
  sorted : relay.completed.Pairwise (· ≥ ·)
  balance : ∃ recent settled, relay.sink.writes = recent ++ settled ∧
    (∀ written ∈ settled, ∃ time ∈ relay.completed, written.time ≤ time) ∧ relay.HasPart recent

theorem Step.sorted (h : Step now relay context after shared) (rests : relay.Rests window now)
    (sorted : relay.completed.Pairwise (· ≥ ·)) : after.completed.Pairwise (· ≥ ·) := by
  rcases h.writes with ⟨kept, -⟩ | ⟨-, added, -⟩
  · rwa [kept]
  · rw [added]
    exact List.pairwise_cons.mpr ⟨fun time done => rests.past time (.inr (.inr done)), sorted⟩

theorem Ledger.step (h : relay.Ledger) (rests : relay.Rests window now)
    (step : Step now relay context after shared) : after.Ledger := by
  refine ⟨step.sorted rests h.sorted, ?_⟩
  obtain ⟨recent, settled, split, old, part⟩ := h.balance
  cases step with
  | take hp =>
    obtain ⟨rfl, level⟩ : recent = [] ∧ relay.source.chunks.length = relay.completed.length := by
      simpa [HasPart, hp, Phase.decided?] using part
    exact ⟨[], settled, split, old, now, relay.source.chunks, rfl, level⟩
  | haltRead hp | tryRead hp | meetEnd hp | meetFault hp | missDeadline hp | awaitData hp
  | resumeRead hp | retryRead hp | loseHope hp =>
    have level : recent = [] ∧ relay.source.chunks.length = relay.completed.length := by
      simpa [HasPart, hp, Phase.decided?] using part
    exact ⟨recent, settled, split, old, .inl level⟩
  | tryWrite hp | stalled hp | resumeWrite hp | flushed hp =>
    simp only [HasPart, hp] at part
    exact ⟨recent, settled, split, old, part⟩
  | tryFlush hp =>
    simp only [HasPart, hp, List.append_nil] at part
    exact ⟨recent, settled, split, old, part⟩
  | haltWrite hp =>
    simp only [HasPart, hp] at part
    exact ⟨recent, settled, split, old, .inr ⟨rfl, _, part⟩⟩
  | refused hp | ignored hp =>
    simp only [HasPart, hp] at part
    exact ⟨recent, settled, split, old, _, part⟩
  | @writePart rest count hp =>
    simp only [HasPart, hp] at part
    refine ⟨⟨now, rest.take count⟩ :: recent, settled, congrArg _ split, old, ?_⟩
    show OnChunk relay _
    rwa [Written.join_cons, List.append_assoc, List.take_append_drop]
  | @writeRest rest count hp =>
    simp only [HasPart, hp] at part
    refine ⟨⟨now, rest⟩ :: recent, settled, congrArg _ split, old, ?_⟩
    show OnChunk relay _
    rwa [Written.join_cons]
  | flushFailed hp =>
    simp only [HasPart, hp] at part
    refine ⟨recent, settled, split, old, [], ?_⟩
    rwa [List.append_nil]
  | flushPending hp =>
    simp only [HasPart, hp] at part
    refine ⟨recent, settled, split, old, ?_⟩
    show OnChunk relay _
    rwa [List.append_nil]
  | record hp =>
    simp only [HasPart, hp] at part
    obtain ⟨time, older, chunks, level⟩ := part
    -- the chunk is completed, and what was written of it is settled
    refine ⟨[], recent ++ settled, by simpa using split, fun written mem => ?_, ?_⟩
    · have early : written.time ≤ now := rests.past _ (.inr (.inl ⟨written, split ▸ mem, rfl⟩))
      exact ⟨now, by simp, early⟩
    · simp only [HasPart, phase_complete, source_complete, completed_complete]
      exact .inl ⟨trivial, by simp [chunks, level]⟩
  | giveWay | markBroken | leave | spareSink | turnToSink | sinkClosed | sinkFailed | sinkPending
  | sinkDrained | drainFailed | abandonSink =>
    exact ⟨recent, settled, split, old, hasPart_of_decided rfl part.level_or⟩
  | @judge cause =>
    exact ⟨recent, settled, split, old, hasPart_of_decided cause.decided?_end part.level_or⟩

/-- When a chunk was written it is the only one that is not completed. -/
theorem Ledger.length_chunks (h : relay.Ledger)
    (hp : relay.phase = .flushing ∨ relay.phase = .recording) :
    relay.source.chunks.length = relay.completed.length + 1 := by
  obtain ⟨recent, -, -, -, part⟩ := h.balance
  have newest : relay.OnChunk (Written.join recent) := by
    rcases hp with hp | hp <;> simpa only [HasPart, hp] using part
  obtain ⟨time, older, chunks, level⟩ := newest
  rw [chunks, List.length_cons, level]

theorem Ledger.completed_le (h : relay.Ledger) :
    relay.completed.length ≤ relay.source.chunks.length := by
  obtain ⟨recent, -, -, -, part⟩ := h.balance
  rcases part.level_or with ⟨-, level⟩ | ⟨rest, time, older, chunks, level⟩
  · exact Nat.le_of_eq level.symm
  · rw [chunks, List.length_cons, level]
    exact Nat.le_succ _

theorem rests_begin {direction : Direction} {bufferSize : Nat} {script : List Event}
    {plan : SinkPlan} : (begin direction window bufferSize (.ofScript script) (.ofPlan plan) now).Rests
      window now := by
  have idle {time : Nat} : ¬ (begin direction window bufferSize (.ofScript script) (.ofPlan plan)
      now).Active time := by
    simp [Active, begin, Source.ofScript, Sink.ofPlan]
  exact ⟨rfl, fun _ active => (idle active).elim, fun _ _ _ active => (idle active).elim,
    fun _ _ active => (idle active).elim⟩

theorem ledger_begin {direction : Direction} {bufferSize : Nat} {script : List Event}
    {plan : SinkPlan} :
    (begin direction window bufferSize (.ofScript script) (.ofPlan plan) now).Ledger :=
  ⟨.nil, [], [], rfl, nofun, .inl ⟨rfl, rfl⟩⟩

end Relay

namespace Tunnel

theorem Reaches.ledger {allowed : Operation → Prop} {first last : Tunnel} {index window : Nat}
    (h : Reaches allowed first last)
    (hf : ∃ relay, first.relays[index]? = some relay ∧
      relay.Rests window first.now ∧ relay.Ledger) :
    ∃ relay, last.relays[index]? = some relay ∧ relay.Rests window last.now ∧ relay.Ledger := by
  refine h.exists_relay_beside
    (P := fun now _ relay => relay.Rests window now ∧ relay.Ledger) ?_ ?_ ?_ hf
  · exact fun known step =>
      ⟨known.1.step (.of_step? step), known.2.step known.1 (.of_step? step)⟩
  · exact fun known _ => known
  · exact fun known goes _ => ⟨known.1.elapse goes, known.2⟩

end Tunnel

end TunnelServer
