import Mathlib.Data.List.Infix
import TunnelServer.Proofs.Tunnel.Diary
import TunnelServer.Proofs.Tunnel.Faithful
import TunnelServer.Proofs.Tunnel.Idleness
import TunnelServer.Proofs.Tunnel.Ledger

/-!
# A time stamp stands for delivered data

A relay notes that it has written only when its sink has accepted and flushed all that the relay has
read. So its notes, the flushes of its sink and the chunks that went through in time are equally many,
whatever the streams do and whenever the tunnel starts to close.
-/

namespace TunnelServer

namespace Context

variable (context : Context) (now : Nat)

@[simp] theorem debug_recordWrite (direction : Direction) :
    (context.recordWrite now direction).debug = context.debug := by
  cases direction <;> rfl

@[simp] theorem debug_shutdown : (context.shutdown now).debug = context.debug := by
  unfold shutdown
  split <;> rfl

@[simp] theorem debug_finish : context.finish.debug = context.debug := by
  unfold finish
  split <;> rfl

end Context

theorem Operation.debug_effect (operation : Operation) (now : Nat) (context : Context) :
    (operation.effect now context).debug = context.debug := by
  cases operation with
  | recordWrite direction => exact context.debug_recordWrite now direction
  | shutdown => exact context.debug_shutdown now
  | finish => exact context.debug_finish
  | _ => rfl

namespace Deed

/-- The relay notes that it has written. -/
def Records (deed : Deed) : Prop := deed.before.phase = .recording

/-- The relay's sink is flushed. -/
def Flushes (deed : Deed) : Prop := deed.before.sink.flushes < deed.after.sink.flushes

/-- The tunnel was not closing yet, or started to at this time. -/
def InTime (deed : Deed) : Prop := ∀ moment ∈ deed.context.closedAt, deed.now ≤ moment

/-- The sink is flushed after it has accepted all that was read up to this read, the first read being
number zero. -/
def Delivers (read : Nat) (deed : Deed) : Prop :=
  deed.Flushes ∧ read < deed.before.source.chunks.length ∧
    (deed.before.source.chunks.reverse.take (read + 1)).flatMap Chunk.bytes <+:
      deed.before.sink.accepted

instance : DecidablePred Records := fun deed =>
  inferInstanceAs (Decidable (deed.before.phase = .recording))

instance : DecidablePred Flushes := fun deed =>
  inferInstanceAs (Decidable (deed.before.sink.flushes < deed.after.sink.flushes))

instance : DecidablePred InTime := fun deed =>
  inferInstanceAs (Decidable (∀ moment ∈ deed.context.closedAt, deed.now ≤ moment))

instance (read : Nat) : DecidablePred (Delivers read) := fun deed =>
  inferInstanceAs (Decidable (deed.Flushes ∧ _ < _ ∧ _ <+: _))

/-- How many of the first reads brought a chunk that these steps delivered. -/
def delivered (deeds : List Deed) (reads : Nat) : Nat :=
  (List.range reads).countP fun read => ∃ deed ∈ deeds, deed.Delivers read

/-- What each step of a relay keeps to, given the earlier ones. -/
structure Sound (direction : Direction) (earlier : List Deed) (deed : Deed) : Prop where
  noted : deed.Records → deed.shared = deed.context.recordWrite deed.now direction
  unnoted : ¬ deed.Records → deed.shared.lastWrite = deed.context.lastWrite
  /-- The time stamp of the other direction is not touched. -/
  other : deed.shared.lastWrite direction.opposite = deed.context.lastWrite direction.opposite
  /-- What is noted has been accepted and then flushed. -/
  written : deed.Records → deed.before.sink.accepted = deed.before.source.taken ∧
    ∃ flush ∈ earlier, flush.Flushes ∧ flush.before.sink.accepted = deed.before.source.taken
  /-- There was one flush for each note, this one included. -/
  counted : deed.Records → earlier.countP (·.Flushes) = earlier.countP (·.Records) + 1
  lines : deed.after.log.count .bufferSizes = deed.before.log.count .bufferSizes +
    if deed.Records ∧ deed.context.debug = true ∧ direction = .destinationToClient then 1 else 0
  /-- A sink that was told to shut down is left alone. -/
  ended : 0 < deed.before.sink.timesAsked .shutdown → deed.after.sink = deed.before.sink

theorem exists_delivers_concat {deeds : List Deed} {deed : Deed} {read : Nat} :
    (∃ known ∈ deeds ++ [deed], known.Delivers read) ↔
      (∃ known ∈ deeds, known.Delivers read) ∨ deed.Delivers read := by
  simp only [List.mem_append, List.mem_singleton, or_and_right, exists_or, exists_eq_left]

theorem sound_concat {direction : Direction} {deeds : List Deed} {last : Deed}
    (h : ∀ earlier deed, earlier ++ [deed] <+: deeds → deed.Sound direction earlier)
    (sound : last.Sound direction deeds) (earlier : List Deed) (deed : Deed)
    (hp : earlier ++ [deed] <+: deeds ++ [last]) : deed.Sound direction earlier := by
  rcases List.prefix_concat_iff.mp hp with same | hp
  · obtain ⟨rfl, final⟩ := List.append_inj' same rfl
    obtain rfl := List.singleton_inj.mp final
    exact sound
  · exact h earlier deed hp

theorem delivered_filter {deeds : List Deed} {kept : Deed → Bool} {reads : Nat}
    (all : ∀ deed ∈ deeds, deed.Flushes → kept deed = true) :
    delivered (deeds.filter kept) reads = delivered deeds reads := by
  refine List.countP_congr fun read _ => ?_
  simp only [decide_eq_true_eq, List.mem_filter]
  constructor
  · rintro ⟨deed, ⟨hm, -⟩, delivers⟩
    exact ⟨deed, hm, delivers⟩
  · rintro ⟨deed, hm, delivers⟩
    exact ⟨deed, ⟨hm, all deed hm delivers.1⟩, delivers⟩

theorem delivered_eq {deeds : List Deed} {count reads : Nat}
    (h : ∀ read, (∃ deed ∈ deeds, deed.Delivers read) ↔ read < count) (le : count ≤ reads) :
    delivered deeds reads = count := by
  obtain ⟨more, rfl⟩ := Nat.exists_eq_add_of_le le
  simp only [delivered, h, List.range_add, List.countP_append]
  have all : (List.range count).countP (· < count) = count := by
    have whole : (List.range count).countP (· < count) = (List.range count).length :=
      List.countP_eq_length.mpr fun read hm => decide_eq_true (List.mem_range.mp hm)
    rw [whole, List.length_range]
  have none : ((List.range more).map (count + ·)).countP (· < count) = 0 := by
    refine List.countP_eq_zero.mpr fun read hm => ?_
    obtain ⟨beyond, -, rfl⟩ := List.mem_map.mp hm
    simp
  rw [all, none, Nat.add_zero]

end Deed

namespace Relay

variable {now : Nat} {relay after : Relay} {context shared : Context} {direction : Direction}
  {debug : Bool} {deeds : List Deed}

/-- The relay after its sink was flushed. -/
def flushed (relay : Relay) : Relay :=
  { relay.ask .flush with sink := (relay.ask .flush).sink.markFlush }.enter .recording

@[simp] theorem completed_flushed (relay : Relay) : relay.flushed.completed = relay.completed := rfl

@[simp] theorem flushes_flushed (relay : Relay) :
    relay.flushed.sink.flushes = relay.sink.flushes + 1 := rfl

/-- A step by which nothing is flushed or noted. -/
structure Spares (relay after : Relay) : Prop where
  phase_ne : relay.phase ≠ .recording
  after_ne : after.phase ≠ .recording
  flushes_eq : after.sink.flushes = relay.sink.flushes
  completed_eq : after.completed = relay.completed
  lines_eq : after.log.count .bufferSizes = relay.log.count .bufferSizes

theorem count_shutdownNotices (context : Context) :
    context.shutdownNotices.count .bufferSizes = 0 := by
  unfold Context.shutdownNotices Context.closeNotice
  split
  · rfl
  · split <;> rfl

/-- A step flushes the sink after a whole chunk, notes that it was flushed, or does neither. -/
theorem Step.delivery_cases (h : Step now relay context after shared) :
    (relay.phase = .flushing ∧ after = relay.flushed ∧ shared = context) ∨
      (relay.phase = .recording ∧ after = relay.complete now context.debug ∧
        shared = context.recordWrite now relay.direction) ∨
      (relay.Spares after ∧ shared.lastWrite = context.lastWrite) := by
  cases h with
  | flushed hp => exact .inl ⟨hp, rfl, rfl⟩
  | record hp => exact .inr (.inl ⟨hp, rfl, rfl⟩)
  | @judge cause hp =>
    refine .inr (.inr ⟨⟨by simp [hp], ?_, rfl, rfl, ?_⟩, rfl⟩)
    · rw [phase_enter]
      split <;> simp
    · cases cause <;> simp [report, Cause.report]
  | leave hp =>
    refine .inr (.inr ⟨⟨by simp [hp], by simp, rfl, rfl, ?_⟩, context.lastWrite_shutdown now⟩)
    simp [count_shutdownNotices]
  | sinkFailed hp | drainFailed hp | abandonSink hp =>
    exact .inr (.inr ⟨⟨by simp [hp], by simp, rfl, rfl, by simp [report, ask]⟩, rfl⟩)
  | haltRead hp | tryRead hp | take hp | meetEnd hp | meetFault hp | missDeadline hp | awaitData hp
  | resumeRead hp | retryRead hp | loseHope hp | giveWay hp | markBroken hp | haltWrite hp
  | tryWrite hp | tryFlush hp | refused hp | stalled hp | ignored hp | writePart hp | writeRest hp
  | resumeWrite hp | flushFailed hp | flushPending hp | spareSink hp | turnToSink hp | sinkClosed hp
  | sinkPending hp | sinkDrained hp =>
    exact .inr (.inr ⟨⟨by simp [hp], by simp, rfl, rfl, rfl⟩, rfl⟩)

theorem Step.flushing_of_flushes (h : Step now relay context after shared)
    (flushes : Deed.Flushes ⟨now, relay, context, after, shared⟩) : relay.phase = .flushing := by
  rcases h.delivery_cases with ⟨hp, -, -⟩ | ⟨-, rfl, -⟩ | ⟨spares, -⟩
  · exact hp
  · exact absurd flushes (by simp [Deed.Flushes])
  · exact absurd flushes (by simp [Deed.Flushes, spares.flushes_eq])

/-- The sink was not told to shut down, or only once, and then the relay is over. -/
def ShutsOnce (relay : Relay) : Prop :=
  relay.sink.timesAsked .shutdown = 0 ∨
    relay.phase.IsOver ∧ relay.sink.timesAsked .shutdown = 1

theorem Step.sink_eq_of_isOver (h : Step now relay context after shared)
    (done : relay.phase.IsOver) : after.sink = relay.sink ∧ after.phase.IsOver := by
  cases h with
  | sinkDrained | drainFailed | abandonSink => exact ⟨rfl, trivial⟩
  | haltRead hp | tryRead hp | take hp | meetEnd hp | meetFault hp | missDeadline hp | awaitData hp
  | resumeRead hp | retryRead hp | loseHope hp | giveWay hp | judge hp | markBroken hp
  | haltWrite hp | tryWrite hp | tryFlush hp | refused hp | stalled hp | ignored hp | writePart hp
  | writeRest hp | resumeWrite hp | flushFailed hp | flushPending hp | flushed hp | record hp
  | leave hp | spareSink hp | turnToSink hp | sinkClosed hp | sinkFailed hp | sinkPending hp =>
    rw [hp] at done
    exact done.elim

theorem ShutsOnce.step (h : relay.ShutsOnce) (step : Step now relay context after shared) :
    after.ShutsOnce := by
  rcases h with none | ⟨done, once⟩
  · cases step with
    | sinkClosed | sinkFailed | sinkPending =>
      exact .inr ⟨trivial, by simp [ask, report, none]⟩
    | refused | stalled | ignored | writePart | writeRest | flushFailed | flushPending | flushed =>
      exact .inl (by simp [ask, none])
    | record => exact .inl (by rw [sink_complete, none])
    | _ => exact .inl none
  · obtain ⟨same, still⟩ := step.sink_eq_of_isOver done
    exact .inr ⟨still, same ▸ once⟩

/-- What the steps of a relay come to, as it remembers them itself. -/
structure Accounts (deeds : List Deed) (relay : Relay) : Prop where
  records : deeds.countP (·.Records) = relay.completed.length
  flushes : deeds.countP (·.Flushes) = relay.sink.flushes
  level : relay.sink.flushes = relay.completed.length + if relay.phase = .recording then 1 else 0
  delivers : ∀ read, (∃ deed ∈ deeds, deed.Delivers read) ↔ read < relay.sink.flushes
  ready : relay.phase = .recording →
    ∃ flush ∈ deeds, flush.Flushes ∧ flush.before.sink.accepted = relay.source.taken

theorem accounts_begin (direction : Direction) (timeout bufferSize start : Nat)
    (script : List Event) (plan : SinkPlan) :
    (begin direction timeout bufferSize (.ofScript script) (.ofPlan plan) start).Accounts [] where
  records := rfl
  flushes := rfl
  level := rfl
  delivers read := by simp [begin, Sink.ofPlan]
  ready := nofun

/-- What a flush after a whole chunk delivers is all that was read. -/
theorem delivers_iff_of_flushed (split : relay.sink.accepted = relay.source.taken) (read : Nat) :
    Deed.Delivers read ⟨now, relay, context, relay.flushed, shared⟩ ↔
      read < relay.source.chunks.length := by
  refine ⟨fun delivers => delivers.2.1, fun lt => ⟨Nat.lt_succ_self _, lt, ?_⟩⟩
  show _ <+: relay.sink.accepted
  rw [split, Source.taken, Chunk.join, ← List.map_reverse, ← List.flatMap_def]
  exact (List.take_prefix _ _).flatMap _

theorem Accounts.flush (h : relay.Accounts deeds) (hp : relay.phase = .flushing)
    (split : relay.sink.accepted = relay.source.taken)
    (held : relay.source.chunks.length = relay.completed.length + 1) :
    relay.flushed.Accounts (deeds ++ [⟨now, relay, context, relay.flushed, shared⟩]) := by
  have level : relay.sink.flushes = relay.completed.length := by simpa [hp] using h.level
  have flushes : Deed.Flushes ⟨now, relay, context, relay.flushed, shared⟩ := Nat.lt_succ_self _
  have other : ¬ Deed.Records ⟨now, relay, context, relay.flushed, shared⟩ := by
    rw [Deed.Records, hp]
    nofun
  refine ⟨?_, ?_, ?_, fun read => ?_, fun _ => ?_⟩
  · simpa [List.countP_append, other] using h.records
  · simpa [List.countP_append, flushes] using h.flushes
  · exact congrArg (· + 1) level
  · -- the chunk that is flushed is the one that was read last, so this flush delivers one more
    rw [Deed.exists_delivers_concat, h.delivers read, delivers_iff_of_flushed split, held, level]
    show _ ↔ read < relay.sink.flushes + 1
    omega
  · exact ⟨_, List.mem_concat_self, flushes, split⟩

theorem Accounts.record (h : relay.Accounts deeds) (hp : relay.phase = .recording) :
    (relay.complete now debug).Accounts
      (deeds ++ [⟨now, relay, context, relay.complete now debug, shared⟩]) := by
  have records : Deed.Records ⟨now, relay, context, relay.complete now debug, shared⟩ := hp
  have other : ¬ Deed.Flushes ⟨now, relay, context, relay.complete now debug, shared⟩ := by
    rw [Deed.Flushes, sink_complete]
    exact Nat.lt_irrefl _
  refine ⟨?_, ?_, ?_, fun read => ?_, ?_⟩
  · simpa [List.countP_append, records] using h.records
  · simpa [List.countP_append, other] using h.flushes
  · simpa [hp] using h.level
  · rw [Deed.exists_delivers_concat, h.delivers read, sink_complete]
    exact or_iff_left fun delivers => other delivers.1
  · rw [phase_complete]
    nofun

theorem Accounts.spare (h : relay.Accounts deeds) (spares : relay.Spares after) :
    after.Accounts (deeds ++ [⟨now, relay, context, after, shared⟩]) := by
  have unnoted : ¬ Deed.Records ⟨now, relay, context, after, shared⟩ := spares.phase_ne
  have other : ¬ Deed.Flushes ⟨now, relay, context, after, shared⟩ := by
    rw [Deed.Flushes, spares.flushes_eq]
    exact Nat.lt_irrefl _
  refine ⟨?_, ?_, ?_, fun read => ?_, fun recording => absurd recording spares.after_ne⟩
  · simpa [List.countP_append, unnoted, spares.completed_eq] using h.records
  · simpa [List.countP_append, other, spares.flushes_eq] using h.flushes
  · simpa [spares.flushes_eq, spares.completed_eq, spares.phase_ne, spares.after_ne] using h.level
  · rw [Deed.exists_delivers_concat, h.delivers read, spares.flushes_eq]
    exact or_iff_left fun delivers => other delivers.1

theorem Accounts.step (h : relay.Accounts deeds) (balanced : relay.Balanced)
    (ledger : relay.Ledger) (step : Step now relay context after shared) :
    after.Accounts (deeds ++ [⟨now, relay, context, after, shared⟩]) := by
  rcases step.delivery_cases with ⟨hp, rfl, -⟩ | ⟨hp, rfl, -⟩ | ⟨spares, -⟩
  · exact h.flush hp (balanced.accepted_eq (.inl hp)) (ledger.length_chunks (.inl hp))
  · exact h.record hp
  · exact h.spare spares

theorem Accounts.sound (h : relay.Accounts deeds) (balanced : relay.Balanced)
    (once : relay.ShutsOnce) (step : Step now relay context after shared) :
    Deed.Sound relay.direction deeds ⟨now, relay, context, after, shared⟩ where
  noted hp := by
    rcases step.delivery_cases with ⟨hq, -, -⟩ | ⟨-, -, noted⟩ | ⟨spares, -⟩
    · exact absurd (hp.symm.trans hq) nofun
    · exact noted
    · exact absurd hp spares.phase_ne
  unnoted hp := by
    rcases step.delivery_cases with ⟨-, -, same⟩ | ⟨hq, -, -⟩ | ⟨-, same⟩
    · exact congrArg _ same
    · exact absurd hq hp
    · exact same
  other := by
    rcases step.delivery_cases with ⟨-, -, same⟩ | ⟨-, -, noted⟩ | ⟨-, same⟩
    · exact congrArg (fun known : Context => known.lastWrite _) same
    · show shared.lastWrite _ = _
      rw [noted, Context.lastWrite_recordWrite, if_neg relay.direction.opposite_ne]
    · exact congrFun same _
  written hp := ⟨balanced.accepted_eq (.inr hp), h.ready hp⟩
  counted hp := by
    have hp : relay.phase = .recording := hp
    rw [h.flushes, h.records, h.level, if_pos hp]
  lines := by
    rcases step.delivery_cases with ⟨hp, rfl, -⟩ | ⟨hp, rfl, -⟩ | ⟨spares, -⟩
    · simp [Deed.Records, hp, flushed, ask]
    · simp only [Deed.Records, hp, log_complete, List.count_append]
      split <;> simp_all
    · simp [Deed.Records, spares.phase_ne, spares.lines_eq]
  ended asked := by
    rcases once with none | ⟨done, -⟩
    · exact absurd asked (by simp [none])
    · exact (step.sink_eq_of_isOver done).1

/-- Whoever has seen an open tunnel acts on that before it starts to close, or at the same time if
others may come in between. -/
def ActsInTime (atomic : Prop) (now : Nat) (context : Context) (relay : Relay) : Prop :=
  relay.phase.Engaged → ∀ moment ∈ context.closedAt, ¬ atomic ∧ now = moment

variable {atomic : Prop} {later : Nat}

theorem Step.not_engaged_of_closes {moment : Nat} (h : Step now relay context after shared)
    (opened : context.closedAt = none) (closed : shared.closedAt = some moment) :
    ¬ after.phase.Engaged := by
  cases h with
  | leave => exact id
  | record => exact phase_complete relay now context.debug ▸ id
  | _ =>
    have never : none = some moment := opened.symm.trans closed
    cases never

theorem ActsInTime.step (h : relay.ActsInTime atomic now context)
    (step : Step now relay context after shared) : after.ActsInTime atomic now shared := by
  intro engaged moment hm
  rcases step.advances.closedAt with same | ⟨opened, closed⟩
  · rw [same] at hm
    by_cases before : relay.phase.Engaged
    · exact h before moment hm
    · exact absurd engaged (step.not_engaged (Context.closing_of_mem hm) before)
  · exact absurd engaged (step.not_engaged_of_closes opened closed)

theorem ActsInTime.advance (h : relay.ActsInTime atomic now context)
    (quiet : atomic → ¬ relay.phase.Engaged) (rely : context.Advances now shared) :
    relay.ActsInTime atomic now shared := by
  intro engaged moment hm
  rcases rely.closedAt with same | ⟨-, closed⟩
  · exact h engaged moment (same ▸ hm)
  · exact ⟨fun whole => quiet whole engaged, Option.some.inj (closed.symm.trans hm)⟩

/-- What holds of a relay from its beginning on, with the steps that it has made. -/
structure Keeps (atomic : Prop) (direction : Direction) (deeds : List Deed) (now : Nat)
    (context : Context) (relay : Relay) : Prop where
  accounts : relay.Accounts deeds
  once : relay.ShutsOnce
  acts : relay.ActsInTime atomic now context
  sound : ∀ earlier deed, earlier ++ [deed] <+: deeds → deed.Sound direction earlier
  inTime : ∀ deed ∈ deeds, deed.Flushes → ∀ moment ∈ deed.context.closedAt,
    ¬ atomic ∧ deed.now = moment
  lines : relay.log.count .bufferSizes =
    if context.debug = true ∧ direction = .destinationToClient then deeds.countP (·.Records) else 0
  nonempty : ∀ chunk ∈ relay.source.chunks, chunk.bytes ≠ []

theorem keeps_begin (timeout bufferSize start : Nat) (script : List Event) (plan : SinkPlan) :
    (begin direction timeout bufferSize (.ofScript script) (.ofPlan plan) start).Keeps
      atomic direction [] now context where
  accounts := accounts_begin direction timeout bufferSize start script plan
  once := .inl rfl
  acts := False.elim
  sound earlier deed h := by simp at h
  inTime deed hm := absurd hm List.not_mem_nil
  lines := by simp [begin]
  nonempty := by simp [begin, Source.ofScript]

theorem Step.debug_eq (h : Step now relay context after shared) : shared.debug = context.debug := by
  cases h with
  | record => exact context.debug_recordWrite now relay.direction
  | leave => exact context.debug_shutdown now
  | _ => rfl

theorem Step.nonempty (h : Step now relay context after shared)
    (nonempty : ∀ chunk ∈ relay.source.chunks, chunk.bytes ≠ []) :
    ∀ chunk ∈ after.source.chunks, chunk.bytes ≠ [] := by
  cases h with
  | take _ hs =>
    intro chunk hm
    rcases List.mem_cons.mp hm with rfl | hm
    · exact List.length_pos_iff.mp (Source.load_of_pollScript_bytes hs).2
    · exact nonempty chunk hm
  | record =>
    rw [source_complete]
    exact nonempty
  | _ => exact nonempty

theorem Keeps.step (h : relay.Keeps atomic relay.direction deeds now context)
    (balanced : relay.Balanced) (ledger : relay.Ledger)
    (step : Step now relay context after shared) :
    after.Keeps atomic relay.direction (deeds ++ [⟨now, relay, context, after, shared⟩]) now
      shared := by
  have sound := h.accounts.sound balanced h.once step
  refine ⟨h.accounts.step balanced ledger step, h.once.step step, h.acts.step step,
    Deed.sound_concat h.sound sound, ?_, ?_, step.nonempty h.nonempty⟩
  · intro deed hm flushes
    rcases List.mem_append.mp hm with hm | hm
    · exact h.inTime deed hm flushes
    · obtain rfl := List.mem_singleton.mp hm
      exact h.acts (by rw [step.flushing_of_flushes flushes]; trivial)
  · rw [step.debug_eq, sound.lines, h.lines, List.countP_append]
    by_cases shown : context.debug = true ∧ relay.direction = .destinationToClient
    · simp [shown]
    · simp [shown]

theorem Keeps.advance (h : relay.Keeps atomic direction deeds now context)
    (quiet : atomic → ¬ relay.phase.Engaged) (rely : context.Advances now shared)
    (debug_eq : shared.debug = context.debug) : relay.Keeps atomic direction deeds now shared :=
  { h with acts := h.acts.advance quiet rely, lines := debug_eq ▸ h.lines }

theorem Keeps.elapse (h : relay.Keeps atomic direction deeds now context)
    (idle : relay.Idles now context later) : relay.Keeps atomic direction deeds later context :=
  { h with acts := fun engaged => absurd engaged (not_engaged_of_step? idle.1) }

end Relay

namespace Tunnel

variable {allowed : Operation → Prop} {atomic : Prop} {index timeout bufferSize : Nat}
  {first last : Tunnel} {deeds : List Deed} {direction : Direction} {script : List Event}
  {plan : SinkPlan}

theorem Reaches.balanced_ledger {relay : Relay} (h : Reaches allowed first last)
    (started : first.relays[index]? =
      some (.begin direction timeout bufferSize (.ofScript script) (.ofPlan plan) first.now))
    (hr : last.relays[index]? = some relay) : relay.Balanced ∧ relay.Ledger := by
  obtain ⟨known, hk, -, balanced⟩ := h.exists_relay
    (P := fun relay => relay.Discreet ∧ relay.Balanced)
    (fun known step => ⟨step.discreet known.1, step.balanced known.1 known.2⟩)
    ⟨_, started, (Relay.faithful_begin timeout first.now plan).discreet,
      (Relay.faithful_begin timeout first.now plan).balanced⟩
  obtain ⟨found, hf, -, ledger⟩ := h.ledger ⟨_, started, Relay.rests_begin, Relay.ledger_begin⟩
  obtain rfl : relay = known := Option.some.inj (hr.symm.trans hk)
  obtain rfl : relay = found := Option.some.inj (hr.symm.trans hf)
  exact ⟨balanced, ledger⟩

theorem Diary.keeps (h : Diary allowed atomic index first last deeds)
    (started : first.relays[index]? =
      some (.begin direction timeout bufferSize (.ofScript script) (.ofPlan plan) first.now)) :
    ∃ relay, last.relays[index]? = some relay ∧
      relay.Keeps atomic direction deeds last.now last.context := by
  induction h with
  | refl => exact ⟨_, started, Relay.keeps_begin ..⟩
  | @own _ _ known _ _ reached hk step ih =>
    obtain ⟨relay, hr, keeps⟩ := ih
    obtain rfl : known = relay := Option.some.inj (hk.symm.trans hr)
    obtain ⟨balanced, ledger⟩ := reached.reaches.balanced_ledger started hk
    obtain rfl : known.direction = direction := reached.reaches.direction_eq started hk
    exact ⟨_, getElem?_replace_self hk, keeps.step balanced ledger (.of_step? step)⟩
  | other _ apart quiet _ step ih =>
    obtain ⟨relay, hr, keeps⟩ := ih
    have made := Relay.Step.of_step? step
    refine ⟨relay, (getElem?_replace_ne apart).trans hr, ?_⟩
    exact keeps.advance (fun whole => quiet whole relay hr) made.advances made.debug_eq
  | elapse _ _ idle ih =>
    obtain ⟨relay, hr, keeps⟩ := ih
    exact ⟨relay, hr, keeps.elapse (idle relay (List.mem_of_getElem? hr))⟩
  | @call _ _ operation _ quiet _ ih =>
    obtain ⟨relay, hr, keeps⟩ := ih
    refine ⟨relay, hr, keeps.advance (fun whole => quiet whole relay hr) ?_ ?_⟩
    · exact operation.advances_effect _ _
    · exact operation.debug_effect _ _

/-- What the steps of a relay show of its time stamps. -/
structure Receipts (atomic : Prop) (direction : Direction) (debug : Bool) (deeds : List Deed)
    (relay : Relay) : Prop where
  sound : ∀ earlier deed, earlier ++ [deed] <+: deeds → deed.Sound direction earlier
  /-- Nothing is flushed later than the tunnel starts to close. -/
  inTime : ∀ deed ∈ deeds, deed.Flushes → deed.InTime
  nonempty : ∀ chunk ∈ relay.source.chunks, chunk.bytes ≠ []
  /-- Whatever was delivered in time is noted, unless it is about to be, and nothing else. -/
  records_eq : relay.phase ≠ .recording → deeds.countP (·.Records) =
    Deed.delivered (deeds.filter (·.InTime)) relay.source.chunks.length
  /-- Where nobody interferes, in time means before the tunnel starts to close. -/
  records_open : atomic → relay.phase ≠ .recording → deeds.countP (·.Records) =
    Deed.delivered (deeds.filter (!·.context.closing)) relay.source.chunks.length
  completed_eq : deeds.countP (·.Records) = relay.completed.length
  flushes_eq : deeds.countP (·.Flushes) = relay.sink.flushes
  lines_eq : relay.log.count .bufferSizes =
    if debug = true ∧ direction = .destinationToClient then deeds.countP (·.Records) else 0
  shutdown_le : relay.sink.timesAsked .shutdown ≤ 1

/-- Whatever its streams do and whenever its tunnel starts to close, a relay notes a write only when
all that it has read was accepted and then flushed, once for each chunk delivered in time and for each
flush; nothing else touches time stamps, and nothing follows the shutdown of its sink. -/
theorem timestamps_are_receipts
    (started : first.relays[index]? =
      some (.begin direction timeout bufferSize (.ofScript script) (.ofPlan plan) first.now))
    (diary : Diary allowed atomic index first last deeds) :
    ∃ relay, last.relays[index]? = some relay ∧
      Receipts atomic direction last.context.debug deeds relay := by
  obtain ⟨relay, hr, keeps⟩ := diary.keeps started
  have accounts := keeps.accounts
  obtain ⟨-, ledger⟩ := diary.reaches.balanced_ledger started hr
  have counts (idle : relay.phase ≠ .recording) (kept : Deed → Bool)
      (all : ∀ deed ∈ deeds, deed.Flushes → kept deed = true) :
      deeds.countP (·.Records) =
        Deed.delivered (deeds.filter kept) relay.source.chunks.length := by
    have level : relay.sink.flushes = relay.completed.length := by
      simpa [idle] using accounts.level
    rw [Deed.delivered_filter all, Deed.delivered_eq accounts.delivers, accounts.records, level]
    exact level ▸ ledger.completed_le
  refine ⟨relay, hr, keeps.sound, ?_, keeps.nonempty, ?_, ?_, accounts.records, accounts.flushes,
    keeps.lines, ?_⟩
  · intro deed hm flushes moment closed
    exact Nat.le_of_eq (keeps.inTime deed hm flushes moment closed).2
  · intro idle
    refine counts idle _ fun deed hm flushes => decide_eq_true fun moment closed => ?_
    exact Nat.le_of_eq (keeps.inTime deed hm flushes moment closed).2
  · intro whole idle
    refine counts idle _ fun deed hm flushes => ?_
    have opened : deed.context.closedAt = none := by
      refine Option.eq_none_iff_forall_not_mem.mpr fun moment closed => ?_
      exact (keeps.inTime deed hm flushes moment closed).1 whole
    rw [Context.closing, opened]
    rfl
  · rcases keeps.once with none | ⟨-, once⟩
    · exact none ▸ Nat.zero_le 1
    · exact Nat.le_of_eq once

/-- A destination that sends what is read in three chunks of at most two bytes. -/
def letters : List Event := [⟨1, .data [1, 2, 3]⟩, ⟨5, .data [4]⟩]

/-- A sink that takes three bytes and no more. -/
def fullBox : SinkPlan := { SinkPlan.unrestricted with stalls := [⟨3, none⟩] }

/-- The client ends the tunnel while its sink holds up the third chunk. -/
def courier : Tunnel :=
  setUp ⟨"courier", true, 20, 2⟩ 0 ⟨.ofScript [⟨7, .endOfStream⟩], .ofPlan fullBox⟩
    ⟨.ofScript letters, .ofPlan .unrestricted⟩

theorem timestamps_are_receipts_courier :
    courier.relays[1]? =
        some (.begin .destinationToClient 20 2 (.ofScript letters) (.ofPlan fullBox) courier.now) ∧
      ∃ deeds, Diary (fun _ => False) True 1 courier (courier.runUntil 100) deeds ∧
        ∃ relay, (courier.runUntil 100).relays[1]? = some relay ∧
          relay.exit? = some (.closed, 7) ∧ relay.source.chunks.length = 3 ∧
          deeds.countP (·.Records) = 2 ∧ deeds.countP (·.Flushes) = 2 ∧
          Deed.delivered (deeds.filter (!·.context.closing)) 3 = 2 ∧
          relay.log.count .bufferSizes = 2 := by
  have started : courier.relays[1]? =
      some (.begin .destinationToClient 20 2 (.ofScript letters) (.ofPlan fullBox) courier.now) :=
    rfl
  have turns : TakesTurns (fun _ => False) courier (courier.runUntil 100) :=
    takesTurns_advance _ _ courier
  obtain ⟨deeds, diary⟩ := turns.exists_diary started id
  obtain ⟨relay, hr, receipts⟩ := timestamps_are_receipts started diary
  have he : (courier.runUntil 100).relays[1]?.map
      (fun relay => (relay.phase, relay.source.chunks.length, relay.completed.length,
        relay.sink.flushes)) = some (.finished .closed 7, 3, 2, 2) := by decide
  have shown : (courier.runUntil 100).context.debug = true := by decide
  rw [hr] at he
  simp only [Option.map_some, Option.some.injEq, Prod.mk.injEq] at he
  obtain ⟨phase, chunks, completed, flushes⟩ := he
  have idle : relay.phase ≠ .recording := by
    rw [phase]
    nofun
  have records : deeds.countP (·.Records) = 2 := receipts.completed_eq.trans completed
  refine ⟨started, deeds, diary, relay, hr, Relay.exit?_eq_some_iff.mpr phase, chunks, records,
    receipts.flushes_eq.trans flushes, ?_, ?_⟩
  · rw [← chunks, ← receipts.records_open trivial idle, records]
  · rw [receipts.lines_eq, if_pos ⟨shown, rfl⟩, records]

end Tunnel

end TunnelServer
