import TunnelServer.Proofs.Tunnel.Agreement

/-!
# Silence is noticed

A read is given up at its deadline, and a read that is tried again gets a new one only if the other
direction completed a chunk within the time limit. So the deadline of a read is never later than
twice the limit after the last chunk that either direction completed, and when the clock is past
that the tunnel is closing, unless every relay holds a chunk that its sink has not completed. Such
a relay has no deadline.
-/

namespace TunnelServer

namespace Context

variable {context : Context} {now time window : Nat} {direction : Direction}

theorem toNat_stamp (fits : now - context.start + 1 < UInt64.size) :
    (context.stamp now).toNat = now - context.start + 1 := by
  rw [stamp, UInt64.toNat_add, UInt64.toNat_ofNat']
  have one : (1 : UInt64).toNat = 1 := rfl
  have size : UInt64.size = 18446744073709551616 := rfl
  omega

theorem toNat_elapsed {later earlier : UInt64} :
    (elapsed later earlier).toNat = later.toNat - earlier.toNat := by
  unfold elapsed
  split
  · rename_i less
    rw [UInt64.lt_iff_toNat_lt] at less
    have zero : (0 : UInt64).toNat = 0 := rfl
    omega
  · rename_i more
    rw [UInt64.lt_iff_toNat_lt] at more
    rw [UInt64.toNat_sub_of_le _ _ (UInt64.le_iff_toNat_le.mpr (Nat.le_of_not_lt more))]

theorem lt_of_wroteWithin (h : context.wroteWithin now direction window = true)
    (hs : context.lastWrite direction = context.stamp time) (began : context.start ≤ time)
    (later : time ≤ now) (fits : now - context.start + 1 < UInt64.size) : now < time + window := by
  simp only [wroteWithin, Bool.and_eq_true, decide_eq_true_eq] at h
  have near := UInt64.lt_iff_toNat_lt.mp h.2
  have fits' : time - context.start + 1 < UInt64.size := by omega
  have size : UInt64.size = 18446744073709551616 := rfl
  rw [toNat_elapsed, hs, toNat_stamp fits, toNat_stamp fits', UInt64.toNat_ofNat'] at near
  have less : window % 2 ^ 64 ≤ window := Nat.mod_le ..
  omega

theorem lastWrite_ne_zero_of_wroteWithin (h : context.wroteWithin now direction window = true) :
    context.lastWrite direction ≠ 0 := by
  simp only [wroteWithin, Bool.and_eq_true, decide_eq_true_eq, ne_eq] at h
  exact h.1

section effects

variable (context : Context) (now : Nat) (direction : Direction)

@[simp] theorem start_recordWrite : (context.recordWrite now direction).start = context.start := by
  cases direction <;> rfl

@[simp] theorem start_shutdown : (context.shutdown now).start = context.start := by
  unfold shutdown
  split <;> rfl

@[simp] theorem start_finish : context.finish.start = context.start := by
  unfold finish
  split <;> rfl

theorem lastWrite_recordWrite (other : Direction) :
    (context.recordWrite now direction).lastWrite other =
      if other = direction then context.stamp now else context.lastWrite other := by
  cases direction <;> cases other <;> rfl

@[simp] theorem lastWrite_shutdown : (context.shutdown now).lastWrite = context.lastWrite := by
  unfold shutdown
  split <;> rfl

@[simp] theorem lastWrite_finish : context.finish.lastWrite = context.lastWrite := by
  unfold finish
  split <;> rfl

end effects

theorem stamp_congr {shared : Context} (h : shared.start = context.start) (time : Nat) :
    shared.stamp time = context.stamp time := by
  rw [stamp, stamp, h]

end Context

/-- When a read that is under way is given up. -/
def Phase.deadline? : Phase → Option Nat
  | .reading deadline | .polling deadline | .awaitingData deadline _ => some deadline
  | _ => none

theorem Phase.decided?_of_deadline? {phase : Phase} {deadline : Nat}
    (h : phase.deadline? = some deadline) : phase.decided? = none := by
  unfold deadline? at h
  split at h
  · rfl
  · rfl
  · rfl
  · cases h

namespace Relay

/-- The relay holds a chunk that its sink has not completed, or leaves since its sink failed. -/
def AtSink (relay : Relay) : Prop :=
  match relay.phase with
  | .writing _ | .offering _ | .awaitingRoom .. | .flushing | .recording => True
  | .judging (.writeFault _) => True
  | .breaking .fault | .leaving .fault => ∃ kind, .writeError relay.direction kind ∈ relay.log
  | _ => False

/-- What a relay of an open tunnel does at a time, if its reads are given up by the limit. -/
inductive Attends (now limit : Nat) (relay : Relay) : Prop where
  | reading {deadline : Nat} : relay.phase.deadline? = some deadline → now ≤ deadline →
      deadline ≤ limit → Attends now limit relay
  | overdue : relay.phase = .overdue → now ≤ limit → Attends now limit relay
  | judging {cause : Cause} : relay.phase = .judging cause → now ≤ limit →
      Attends now limit relay
  | ending {exit : RelayExit} : (relay.phase = .breaking exit ∨ relay.phase = .leaving exit) →
      now ≤ limit → Attends now limit relay
  | atSink : relay.AtSink → Attends now limit relay

variable {now limit : Nat} {relay after : Relay} {context shared : Context}

theorem Attends.le_or_atSink (h : relay.Attends now limit) : now ≤ limit ∨ relay.AtSink := by
  cases h with
  | reading _ early late => exact .inl (Nat.le_trans early late)
  | overdue _ early | judging _ early | ending _ early => exact .inl early
  | atSink held => exact .inr held

theorem Step.attends_of_atSink (h : Step now relay context after shared)
    (hc : context.closing = false) (held : relay.AtSink)
    (complete : relay.phase = .recording → now + relay.timeout ≤ limit) :
    shared.closing = true ∨ after.Attends now limit := by
  cases h with
  | tryWrite | tryFlush | stalled | writePart | writeRest | resumeWrite | flushPending | flushed
  | refused | ignored | flushFailed => exact .inr (.atSink trivial)
  | record hp =>
    refine .inr (.reading (by rw [phase_complete]; rfl) (Nat.le_add_right ..) (complete hp))
  | haltWrite _ closing | giveWay _ closing =>
    rw [hc] at closing
    cases closing
  | @judge cause hp =>
    cases cause with
    | writeFault kind =>
      exact .inr (.atSink ⟨kind, List.mem_append_right _ (List.mem_singleton_self _)⟩)
    | silence | readFault | sourceEnded => simp [AtSink, hp] at held
  | @markBroken exit hp =>
    simp only [AtSink, hp] at held
    cases exit with
    | fault => exact .inr (.atSink held)
    | eof | idle | closed => exact held.elim
  | leave => exact .inl (context.closing_shutdown now)
  | haltRead hp | tryRead hp | take hp | meetEnd hp | meetFault hp | missDeadline hp
  | awaitData hp | resumeRead hp | retryRead hp | loseHope hp | spareSink hp | turnToSink hp
  | sinkClosed hp | sinkFailed hp | sinkPending hp | sinkDrained hp | drainFailed hp
  | abandonSink hp => simp [AtSink, hp] at held

theorem AtSink.deadline?_eq (held : relay.AtSink) : relay.phase.deadline? = none := by
  unfold AtSink at held
  split at held <;> first | exact held.elim | (rename_i hp; rw [hp]; rfl)

theorem Attends.deadline {deadline : Nat} (h : relay.Attends now limit)
    (hd : relay.phase.deadline? = some deadline) : now ≤ deadline ∧ deadline ≤ limit := by
  cases h with
  | reading hp early late =>
    obtain rfl := Option.some.inj (hp.symm.trans hd)
    exact ⟨early, late⟩
  | overdue hp | judging hp =>
    rw [hp] at hd
    cases hd
  | ending hp =>
    rcases hp with hp | hp <;> rw [hp] at hd <;> cases hd
  | atSink held =>
    rw [held.deadline?_eq] at hd
    cases hd

theorem Attends.ends {exit : RelayExit} (h : relay.Attends now limit)
    (hd : relay.phase.decided? = some exit) :
    relay.phase = .breaking exit ∨ relay.phase = .leaving exit := by
  cases h with
  | reading hp =>
    rw [Phase.decided?_of_deadline? hp] at hd
    cases hd
  | overdue hp | judging hp =>
    rw [hp] at hd
    cases hd
  | ending hp =>
    rcases hp with hp | hp <;> rw [hp] at hd ⊢ <;> cases hd
    · exact .inl rfl
    · exact .inr rfl
  | atSink held =>
    unfold AtSink at held
    split at held <;> rename_i hp <;> first | exact held.elim | (rw [hp] at hd; cases hd)
    · exact .inl hp
    · exact .inr hp

/-- In an open tunnel a relay gets time for a read only where it completed a chunk, or where the
other direction wrote lately. -/
theorem Step.attends (h : Step now relay context after shared) (hc : context.closing = false)
    (ha : relay.Attends now limit)
    (complete : relay.phase = .recording → now + relay.timeout ≤ limit)
    (retry : context.wroteWithin now relay.direction.opposite relay.timeout = true →
      now + relay.timeout ≤ limit) :
    shared.closing = true ∨ after.Attends now limit := by
  by_cases held : relay.AtSink
  · exact h.attends_of_atSink hc held complete
  have early : now ≤ limit := ha.le_or_atSink.resolve_right held
  cases h with
  | haltRead _ closing | giveWay _ closing | haltWrite _ closing =>
    rw [hc] at closing
    cases closing
  | tryRead hp | awaitData hp | resumeRead hp =>
    obtain ⟨ahead, within⟩ := ha.deadline (by rw [hp]; rfl)
    exact .inr (.reading rfl ahead within)
  | retryRead _ wrote => exact .inr (.reading rfl (Nat.le_add_right ..) (retry wrote))
  | take => exact .inr (.atSink trivial)
  | missDeadline => exact .inr (.overdue rfl early)
  | meetEnd | meetFault | loseHope => exact .inr (.judging rfl early)
  | @judge cause =>
    right
    cases hb : cause.breaks with
    | true => exact .ending (.inl rfl) early
    | false => exact .ending (.inr rfl) early
  | markBroken => exact .inr (.ending (.inr rfl) early)
  | leave => exact .inl (context.closing_shutdown now)
  | tryWrite hp | tryFlush hp | stalled hp | writePart hp | writeRest hp | resumeWrite hp
  | flushPending hp | flushed hp | refused hp | ignored hp | flushFailed hp | record hp =>
    exact absurd (by simp [AtSink, hp]) held
  | spareSink hp | turnToSink hp | sinkClosed hp | sinkFailed hp | sinkPending hp | sinkDrained hp
  | drainFailed hp | abandonSink hp =>
    have ends := ha.ends (by rw [hp]; rfl)
    rw [hp] at ends
    rcases ends with ends | ends <;> cases ends

theorem Attends.elapse {later : Nat} (h : relay.Attends now limit)
    (idle : relay.Idles now context later) : relay.Attends later limit := by
  obtain ⟨waits, wakes⟩ := idle
  cases h with
  | atSink held => exact .atSink held
  | overdue hp | judging hp =>
    simp only [step?, hp] at waits
    split at waits <;> cases waits
  | ending hp => rcases hp with hp | hp <;> simp [step?, hp] at waits
  | @reading deadline hp early late =>
    have before : later ≤ deadline := by
      unfold Phase.deadline? at hp
      split at hp <;> rename_i same
      · simp [step?, same] at waits
      · simp [step?, same] at waits
      · cases hp
        refine Nat.le_trans (wakes _ (by rw [wake?, same]; rfl)) (Nat.min_le_left ..)
      · cases hp
    exact .reading hp before late

theorem Step.writes (h : Step now relay context after shared) :
    (after.completed = relay.completed ∧ shared.lastWrite = context.lastWrite) ∨
      (relay.phase = .recording ∧ after.completed = now :: relay.completed ∧
        shared = context.recordWrite now relay.direction) := by
  cases h with
  | record hp => exact .inr ⟨hp, completed_complete .., rfl⟩
  | markBroken => exact .inl ⟨rfl, rfl⟩
  | leave => exact .inl ⟨rfl, context.lastWrite_shutdown now⟩
  | _ => exact .inl ⟨rfl, rfl⟩

theorem Step.mem_completed (h : Step now relay context after shared)
    (hp : relay.phase = .recording) : now ∈ after.completed := by
  cases h with
  | record =>
    rw [completed_complete]
    exact List.mem_cons_self
  | _ => simp_all

theorem Step.start_eq (h : Step now relay context after shared) : shared.start = context.start := by
  cases h with
  | record => exact context.start_recordWrite now relay.direction
  | leave => exact context.start_shutdown now
  | _ => rfl

end Relay

namespace Operation

variable {operation : Operation} {now : Nat} {context : Context}

theorem start_effect : (operation.effect now context).start = context.start := by
  cases operation with
  | recordWrite direction => exact context.start_recordWrite now direction
  | shutdown => exact context.start_shutdown now
  | finish => exact context.start_finish
  | _ => rfl

theorem lastWrite_effect (h : ∀ direction, operation ≠ .recordWrite direction) :
    (operation.effect now context).lastWrite = context.lastWrite := by
  cases operation with
  | recordWrite direction => exact absurd rfl (h direction)
  | shutdown => exact context.lastWrite_shutdown now
  | finish => exact context.lastWrite_finish
  | _ => rfl

theorem lastWrite_effect_of_ne {direction : Direction} (h : operation ≠ .recordWrite direction) :
    (operation.effect now context).lastWrite direction = context.lastWrite direction := by
  cases operation with
  | recordWrite other =>
    have apart : direction ≠ other := by
      rintro rfl
      exact h rfl
    exact (context.lastWrite_recordWrite now other direction).trans (if_neg apart)
  | _ => exact congrFun (lastWrite_effect (by simp)) direction

end Operation

namespace Tunnel

/-- No relay has completed a chunk after this time. -/
def RestsSince (tunnel : Tunnel) (rest : Nat) : Prop :=
  ∀ relay ∈ tunnel.relays, ∀ time ∈ relay.completed, time ≤ rest

/-- The time stamp of a direction's last write is from a chunk that some relay completed. -/
def Stamped (tunnel : Tunnel) (direction : Direction) : Prop :=
  ∃ relay ∈ tunnel.relays, ∃ time ∈ relay.completed,
    tunnel.context.lastWrite direction = tunnel.context.stamp time ∧
    tunnel.context.start ≤ time ∧ time ≤ tunnel.now

/-- What holds of a tunnel whose relays take so long for a read, from when they began. -/
structure Timely (window begun : Nat) (tunnel : Tunnel) : Prop where
  timeout_eq : ∀ relay ∈ tunnel.relays, relay.timeout = window
  started : tunnel.context.start ≤ tunnel.now
  stamped : ∀ direction, tunnel.context.lastWrite direction ≠ 0 → tunnel.Stamped direction
  attends : tunnel.now - tunnel.context.start + 1 < UInt64.size →
    tunnel.context.closing = true ∨
      ∀ rest, begun ≤ rest → tunnel.RestsSince rest →
        ∀ relay ∈ tunnel.relays, relay.Attends tunnel.now (rest + 2 * window)

variable {allowed : Operation → Prop} {tunnel next first last : Tunnel} {index window begun : Nat}
  {relay after : Relay} {context : Context}

theorem Timely.timeout_replace (h : tunnel.Timely window begun)
    (place : tunnel.relays[index]? = some relay)
    (step : relay.Step tunnel.now tunnel.context after context) :
    ∀ other ∈ (tunnel.replace index relay after context).relays, other.timeout = window := by
  intro other mem
  rcases List.mem_or_eq_of_mem_set mem with mem | rfl
  · exact h.timeout_eq other mem
  · exact step.setup_eq.2.1.trans (h.timeout_eq relay (List.mem_of_getElem? place))

theorem exists_completed_replace {time : Nat} (place : tunnel.relays[index]? = some relay)
    (step : relay.Step tunnel.now tunnel.context after context)
    (h : ∃ other ∈ tunnel.relays, time ∈ other.completed) :
    ∃ other ∈ (tunnel.replace index relay after context).relays, time ∈ other.completed := by
  refine exists_mem_replace place (fun done => ?_) h
  rcases step.writes with ⟨kept, -⟩ | ⟨-, added, -⟩
  · rwa [kept]
  · rw [added]
    exact List.mem_cons_of_mem _ done

theorem RestsSince.of_replace {rest : Nat} (place : tunnel.relays[index]? = some relay)
    (step : relay.Step tunnel.now tunnel.context after context)
    (h : (tunnel.replace index relay after context).RestsSince rest) : tunnel.RestsSince rest := by
  intro other mem time done
  obtain ⟨other', mem', done'⟩ := exists_completed_replace place step ⟨other, mem, done⟩
  exact h other' mem' time done'

theorem Stamped.replace {direction : Direction} (h : tunnel.Stamped direction)
    (place : tunnel.relays[index]? = some relay)
    (step : relay.Step tunnel.now tunnel.context after context)
    (same : context.lastWrite direction = tunnel.context.lastWrite direction) :
    (tunnel.replace index relay after context).Stamped direction := by
  have starts := step.start_eq
  obtain ⟨other, mem, time, done, noted, began, past⟩ := h
  obtain ⟨other', mem', done'⟩ := exists_completed_replace place step ⟨other, mem, done⟩
  refine ⟨other', mem', time, done', ?_, starts ▸ began, past⟩
  show context.lastWrite direction = context.stamp time
  rw [same, noted, Context.stamp_congr starts]

theorem Timely.stamped_replace (h : tunnel.Timely window begun)
    (place : tunnel.relays[index]? = some relay)
    (step : relay.Step tunnel.now tunnel.context after context) (direction : Direction)
    (written : context.lastWrite direction ≠ 0) :
    (tunnel.replace index relay after context).Stamped direction := by
  have kept (same : context.lastWrite direction = tunnel.context.lastWrite direction) :
      (tunnel.replace index relay after context).Stamped direction :=
    (h.stamped direction (same ▸ written)).replace place step same
  rcases step.writes with ⟨-, same⟩ | ⟨-, added, noted⟩
  · exact kept (congrFun same direction)
  · have last := tunnel.context.lastWrite_recordWrite tunnel.now relay.direction direction
    rw [← noted] at last
    by_cases own : direction = relay.direction
    · rw [if_pos own] at last
      have done : tunnel.now ∈ after.completed := by
        rw [added]
        exact List.mem_cons_self
      refine ⟨after, mem_replace place, tunnel.now, done, ?_, step.start_eq ▸ h.started, Nat.le_refl _⟩
      exact last.trans (Context.stamp_congr step.start_eq tunnel.now).symm
    · rw [if_neg own] at last
      exact kept last

/-- A direction that wrote lately did so before the tunnel came to rest. -/
theorem Timely.lt_of_wroteWithin {rest : Nat} {direction : Direction}
    (h : tunnel.Timely window begun) (rests : tunnel.RestsSince rest)
    (fits : tunnel.now - tunnel.context.start + 1 < UInt64.size)
    (wrote : tunnel.context.wroteWithin tunnel.now direction window = true) :
    tunnel.now < rest + window := by
  obtain ⟨other, mem, time, done, noted, began, past⟩ :=
    h.stamped direction (Context.lastWrite_ne_zero_of_wroteWithin wrote)
  have near := Context.lt_of_wroteWithin wrote noted began past fits
  have early := rests other mem time done
  omega

theorem Timely.attends_replace {rest : Nat} (h : tunnel.Timely window begun)
    (place : tunnel.relays[index]? = some relay)
    (step : relay.Step tunnel.now tunnel.context after context)
    (fits : tunnel.now - tunnel.context.start + 1 < UInt64.size)
    (hc : tunnel.context.closing = false) (hs : context.closing = false)
    (rests : (tunnel.replace index relay after context).RestsSince rest)
    (attends : ∀ other ∈ tunnel.relays, other.Attends tunnel.now (rest + 2 * window)) :
    ∀ other ∈ (tunnel.replace index relay after context).relays,
      other.Attends tunnel.now (rest + 2 * window) := by
  intro other mem
  rcases List.mem_or_eq_of_mem_set mem with mem | rfl
  · exact attends other mem
  have own : relay ∈ tunnel.relays := List.mem_of_getElem? place
  have window_eq : relay.timeout = window := h.timeout_eq relay own
  have complete (hp : relay.phase = .recording) :
      tunnel.now + relay.timeout ≤ rest + 2 * window := by
    have early : tunnel.now ≤ rest := rests other mem tunnel.now (step.mem_completed hp)
    omega
  have retry (wrote : tunnel.context.wroteWithin tunnel.now relay.direction.opposite relay.timeout =
      true) : tunnel.now + relay.timeout ≤ rest + 2 * window := by
    rw [window_eq] at wrote ⊢
    have early := h.lt_of_wroteWithin (rests.of_replace place step) fits wrote
    omega
  have kept := step.attends hc (attends relay own) complete retry
  exact kept.resolve_left (by simp [hs])

theorem Timely.step (h : tunnel.Timely window begun)
    (place : tunnel.relays[index]? = some relay)
    (step : relay.Step tunnel.now tunnel.context after context) :
    (tunnel.replace index relay after context).Timely window begun where
  timeout_eq := h.timeout_replace place step
  started := step.start_eq ▸ h.started
  stamped := h.stamped_replace place step
  attends := by
    intro fits
    have fits' : tunnel.now - tunnel.context.start + 1 < UInt64.size := step.start_eq ▸ fits
    rcases h.attends fits' with closing | attends
    · exact .inl (step.grows.closing closing)
    cases hc : tunnel.context.closing with
    | true => exact .inl (step.grows.closing hc)
    | false =>
      cases hs : context.closing with
      | true => exact .inl hs
      | false =>
        refine .inr fun rest began rests => ?_
        have before := attends rest began (rests.of_replace place step)
        exact h.attends_replace place step fits' hc hs rests before

theorem Timely.elapse {later : Nat} (h : tunnel.Timely window begun) (goes : tunnel.now ≤ later)
    (idle : ∀ relay ∈ tunnel.relays, relay.Idles tunnel.now tunnel.context later) :
    ({ tunnel with now := later } : Tunnel).Timely window begun where
  timeout_eq := h.timeout_eq
  started := Nat.le_trans h.started goes
  stamped := by
    intro direction written
    obtain ⟨other, mem, time, done, noted, began, past⟩ := h.stamped direction written
    exact ⟨other, mem, time, done, noted, began, Nat.le_trans past goes⟩
  attends := by
    intro fits
    have fits' : tunnel.now - tunnel.context.start + 1 < UInt64.size := by
      have fits : later - tunnel.context.start + 1 < UInt64.size := fits
      omega
    refine (h.attends fits').imp id fun attends rest began rests relay mem => ?_
    exact (attends rest began rests relay mem).elapse (idle relay mem)

theorem start_perform (tunnel : Tunnel) (operation : Operation) :
    (tunnel.perform operation).context.start = tunnel.context.start := Operation.start_effect

theorem Timely.perform {operation : Operation} (h : tunnel.Timely window begun)
    (quiet : ∀ direction, operation ≠ .recordWrite direction) :
    (tunnel.perform operation).Timely window begun where
  timeout_eq := h.timeout_eq
  started := (start_perform tunnel operation).symm ▸ h.started
  stamped := by
    intro direction written
    have same : (tunnel.perform operation).context.lastWrite = tunnel.context.lastWrite :=
      Operation.lastWrite_effect quiet
    have starts := start_perform tunnel operation
    rw [same] at written
    obtain ⟨other, mem, time, done, noted, began, past⟩ := h.stamped direction written
    refine ⟨other, mem, time, done, ?_, starts ▸ began, past⟩
    rw [same, noted, Context.stamp_congr starts]
  attends := by
    intro fits
    rw [start_perform] at fits
    exact (h.attends fits).imp (operation.grows_effect _ _).closing id

theorem Timely.reaches (h : first.Timely window begun) (moves : Reaches allowed first last)
    (quiet : ∀ operation direction, allowed operation → operation ≠ .recordWrite direction) :
    last.Timely window begun := by
  induction moves with
  | refl => exact h
  | tail _ move ih =>
    cases move with
    | step place step => exact ih.step place (.of_step? step)
    | elapse goes idle => exact ih.elapse goes idle
    | @call operation may => exact ih.perform fun direction => quiet operation direction may

/-- When no direction has completed a chunk for more than twice the time limit of the reads, the
tunnel is closing, unless every relay holds a chunk that its sink has not completed. Time stamps
must not have overflowed. -/
theorem closing_or_all_atSink {direction : Direction} {label : String} {debug : Bool}
    {bufferSize bufferSize' rest : Nat} {source source' : Source} {sink sink' : Sink}
    (hc : first.context = .fresh label debug first.now)
    (hr : first.relays =
      [.begin direction window bufferSize source sink first.now,
        .begin direction.opposite window bufferSize' source' sink' first.now])
    (quiet : ∀ operation direction, allowed operation → operation ≠ .recordWrite direction)
    (h : Reaches allowed first last) (fits : last.now - last.context.start + 1 < UInt64.size)
    (began : first.now ≤ rest) (rests : last.RestsSince rest)
    (late : rest + 2 * window < last.now) :
    last.context.closing = true ∨ ∀ relay ∈ last.relays, relay.AtSink := by
  have timely : first.Timely window first.now := by
    refine ⟨?_, ?_, ?_, fun _ => .inr fun rest began _ relay mem => ?_⟩
    · rw [hr]
      simp [Relay.begin]
    · rw [hc]
      exact Nat.le_refl _
    · intro direction written
      rw [hc] at written
      cases direction <;> exact absurd rfl written
    · rw [hr, List.mem_cons, List.mem_singleton] at mem
      rcases mem with rfl | rfl <;> exact .reading rfl (Nat.le_add_right ..) (by omega)
  refine ((timely.reaches h quiet).attends fits).imp id fun attends relay mem => ?_
  exact (attends rest began rests relay mem).le_or_atSink.resolve_left (Nat.not_le_of_lt late)

theorem reaches_later {later : Nat} (h : Reaches allowed first last) (goes : last.now ≤ later)
    (waits : ∀ relay ∈ last.relays,
      relay.step? last.now last.context = none ∧ relay.wake? = none) :
    Reaches allowed first { last with now := later } := by
  refine h.tail (.elapse goes fun relay mem => ?_)
  obtain ⟨none, never⟩ := waits relay mem
  refine ⟨none, fun wake hw => ?_⟩
  rw [never] at hw
  cases hw

/-- A client that sends a byte at once, and a destination that neither takes it nor sends. -/
def blockade : Tunnel :=
  setUp ⟨"blockade", false, 4, 2⟩ 0 ⟨.ofScript [⟨0, .data [1]⟩], .ofPlan .unrestricted⟩
    ⟨.ofScript [], .ofPlan { SinkPlan.unrestricted with stalls := [⟨0, none⟩] }⟩

theorem closing_of_blockade :
    Reaches (fun _ => False) blockade { blockade.runUntil 100 with now := 9 } ∧
      ({ blockade.runUntil 100 with now := 9 } : Tunnel).RestsSince 0 ∧
      (blockade.runUntil 100).context.closing = true := by
  have h : Reaches (fun _ => False) blockade { blockade.runUntil 100 with now := 9 } :=
    reaches_later (takesTurns_advance _ _ blockade).reaches (by decide) (by decide)
  have rests : ({ blockade.runUntil 100 with now := 9 } : Tunnel).RestsSince 0 := by
    unfold RestsSince
    decide
  refine ⟨h, rests, ?_⟩
  have noticed := closing_or_all_atSink rfl rfl (fun _ _ never => never.elim) h (by decide)
    (Nat.le_refl 0) rests (by decide)
  refine noticed.resolve_right fun all => ?_
  have reader : ∃ relay ∈ (blockade.runUntil 100).relays, relay.phase = .finished .idle 4 := by
    decide
  obtain ⟨relay, mem, finished⟩ := reader
  have held := all relay mem
  simp [Relay.AtSink, finished] at held

/-- A client and a destination that send a byte each, and of which neither takes what the other one
sent. -/
def deadlock : Tunnel :=
  setUp ⟨"deadlock", false, 4, 2⟩ 0
    ⟨.ofScript [⟨0, .data [1]⟩], .ofPlan { SinkPlan.unrestricted with stalls := [⟨0, none⟩] }⟩
    ⟨.ofScript [⟨0, .data [2]⟩], .ofPlan { SinkPlan.unrestricted with stalls := [⟨0, none⟩] }⟩

/-- Then both relays wait for room, and the tunnel stays open for any time. -/
theorem deadlock_stays_open :
    (∀ later, Reaches (fun _ => False) deadlock { deadlock.round with now := later }) ∧
      deadlock.round.RestsSince 0 ∧ deadlock.round.context.closing = false := by
  refine ⟨fun later => ?_, ?_, by decide⟩
  · exact reaches_later (takesTurns_round deadlock).reaches (Nat.zero_le later) (by decide)
  · unfold RestsSince
    decide

end Tunnel

end TunnelServer
