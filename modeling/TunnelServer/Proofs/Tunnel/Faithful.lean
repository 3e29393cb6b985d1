import TunnelServer.Proofs.Stream.Delivery
import TunnelServer.Proofs.Tunnel.Step
import TunnelServer.Tunnel.Interleaving
import TunnelServer.Tunnel.Schedule

/-!
# A relay is faithful

Whatever its sink does and whenever the tunnel starts to close, a relay writes what it takes, in
order, and holds back no more than one read can give. A relay that ends because its source ended,
because nothing moved, or because its source failed has written everything it took.
-/

namespace TunnelServer

namespace Relay

/-- Whether a relay may hold these bytes, which it has taken and not written. -/
def MayHold (relay : Relay) (held : List UInt8) : Prop :=
  match relay.phase with
  | .writing rest | .offering rest | .awaitingRoom rest _ => held = rest
  | .judging (.writeFault _) => True
  | phase =>
    phase.decided? = some .closed ∨
      (phase.decided? = some .fault ∧ ∀ kind, .readError relay.direction kind ∉ relay.log) ∨ held = []

/-- What was taken is what was written and a part of one chunk that is still held. -/
def Balanced (relay : Relay) : Prop :=
  ∃ held, relay.source.taken = relay.sink.accepted ++ held ∧ held.length ≤ relay.bufferSize ∧
    relay.MayHold held

/-- Nothing is reported before the end is decided. -/
def Discreet (relay : Relay) : Prop :=
  relay.phase.decided? = none → ∀ notice ∈ relay.log, notice.isReport = false

variable {now : Nat} {relay after : Relay} {context shared : Context}

theorem Step.discreet (h : Step now relay context after shared) (hd : relay.Discreet) :
    after.Discreet := by
  intro he
  cases h with
  | tryRead hp | take hp | meetEnd hp | meetFault hp | missDeadline hp | awaitData hp
  | resumeRead hp | retryRead hp | loseHope hp | tryWrite hp | tryFlush hp | refused hp
  | stalled hp | ignored hp | writePart hp | writeRest hp | resumeWrite hp | flushFailed hp
  | flushPending hp | flushed hp =>
    exact hd (by rw [hp]; rfl)
  | judge => split at he <;> simp [Phase.decided?] at he
  | record hp =>
    have quiet := hd (by rw [hp]; rfl)
    intro notice hm
    rw [log_complete] at hm
    rcases List.mem_append.mp hm with hm | hm
    · exact quiet notice hm
    · split at hm
      · rw [List.mem_singleton.mp hm]
        rfl
      · simp at hm
  | _ => simp [Phase.decided?] at he

theorem mayHold_iff_of_decided {exit : RelayExit} {held : List UInt8}
    (he : relay.phase.decided? = some exit) :
    relay.MayHold held ↔ exit = .closed ∨
      (exit = .fault ∧ ∀ kind, .readError relay.direction kind ∉ relay.log) ∨ held = [] := by
  unfold MayHold
  cases hp : relay.phase <;> rw [hp] at he <;> simp_all [Phase.decided?]

theorem MayHold.of_decided {exit : RelayExit} {held : List UInt8} {added : List Notice}
    (h : relay.MayHold held) (he : relay.phase.decided? = some exit)
    (he' : after.phase.decided? = some exit) (hd : after.direction = relay.direction)
    (hl : after.log = relay.log ++ added) (ha : ∀ notice ∈ added, notice.isReport = false) :
    after.MayHold held := by
  rw [mayHold_iff_of_decided he] at h
  rw [mayHold_iff_of_decided he', hd, hl]
  rcases h with h | ⟨h, hn⟩ | h
  · exact .inl h
  · refine .inr (.inl ⟨h, fun kind hm => ?_⟩)
    rcases List.mem_append.mp hm with hm | hm
    · exact hn kind hm
    · simpa [Notice.isReport] using ha _ hm
  · exact .inr (.inr h)

theorem Step.balanced (h : Step now relay context after shared) (hd : relay.Discreet)
    (hb : relay.Balanced) : after.Balanced := by
  obtain ⟨held, split, fits, may⟩ := hb
  cases h with
  | take hp hs =>
    obtain rfl : held = [] := by simpa [MayHold, hp, Phase.decided?] using may
    rw [List.append_nil] at split
    refine ⟨_, ?_, Source.length_le_of_pollScript_bytes hs, rfl⟩
    simp only [source_enter, sink_enter, Source.taken_mk, Chunk.join_cons, ← split]
    rfl
  | haltRead hp | tryRead hp | meetEnd hp | meetFault hp | missDeadline hp | awaitData hp
  | resumeRead hp | retryRead hp | loseHope hp | tryFlush hp | flushFailed hp | flushPending hp
  | flushed hp =>
    obtain rfl : held = [] := by simpa [MayHold, hp, Phase.decided?] using may
    exact ⟨[], split, fits, by simp [MayHold, Phase.decided?]⟩
  | record hp =>
    obtain rfl : held = [] := by simpa [MayHold, hp, Phase.decided?] using may
    exact ⟨[], by simpa using split, Nat.zero_le _, by simp [MayHold, Phase.decided?]⟩
  | tryWrite hp | stalled hp | resumeWrite hp =>
    obtain rfl : held = _ := by simpa only [MayHold, hp] using may
    exact ⟨held, split, fits, rfl⟩
  | giveWay | haltWrite | refused | ignored =>
    exact ⟨held, split, fits, by simp [MayHold, Phase.decided?]⟩
  | @writePart rest count hp =>
    obtain rfl : held = rest := by simpa only [MayHold, hp] using may
    refine ⟨held.drop count, ?_, ?_, rfl⟩
    · show relay.source.taken = _
      rw [split, sink_enter, Sink.accepted_accept, List.append_assoc, List.take_append_drop]
      rfl
    · rw [List.length_drop]
      exact Nat.le_trans (Nat.sub_le ..) fits
  | @writeRest rest count hp =>
    obtain rfl : held = rest := by simpa only [MayHold, hp] using may
    refine ⟨[], ?_, Nat.zero_le _, by simp [MayHold, Phase.decided?]⟩
    show relay.source.taken = _
    rw [split, sink_enter, Sink.accepted_accept, List.append_nil]
    rfl
  | @judge cause hp =>
    have quiet := hd (by rw [hp]; rfl)
    refine ⟨held, split, fits, (mayHold_iff_of_decided cause.decided?_end).mpr ?_⟩
    -- only a fault of the sink leaves a chunk in the relay's hands
    cases cause with
    | writeFault kind =>
      refine .inr (.inl ⟨rfl, fun kind hm => ?_⟩)
      rcases List.mem_append.mp hm with hm | hm
      · simpa [Notice.isReport] using quiet _ hm
      · simp [Cause.report] at hm
    | silence | readFault | sourceEnded =>
      exact .inr (.inr (by simpa [MayHold, hp, Phase.decided?] using may))
  | markBroken hp | spareSink hp | turnToSink hp | sinkClosed hp | sinkPending hp
  | sinkDrained hp =>
    exact ⟨held, split, fits, may.of_decided (by rw [hp]; rfl) rfl rfl (List.append_nil _).symm (by simp)⟩
  | @leave exit hp =>
    refine ⟨held, split, fits, may.of_decided (by rw [hp]; rfl) rfl rfl rfl fun notice hm => ?_⟩
    rcases List.mem_cons.mp hm with rfl | hm
    · rfl
    · exact Context.isReport_of_mem_shutdownNotices hm
  | sinkFailed hp | drainFailed hp | abandonSink hp =>
    exact ⟨held, split, fits, may.of_decided (by rw [hp]; rfl) rfl rfl rfl (by simp [Notice.isReport])⟩

/-- What a relay reads is what its script brings, up to the end if it ends for that. -/
def Follows (script : List Event) (relay : Relay) : Prop :=
  match relay.phase with
  | .judging (.readFault _) => True
  | .judging .sourceEnded => Source.Ends script relay.source.taken
  | phase =>
    match phase.decided? with
    | some .eof => Source.Ends script relay.source.taken
    | some _ => True
    | none => ∀ tail bytes, Source.Brings tail relay.source.script bytes →
        Source.Brings tail script (relay.source.taken ++ bytes)

theorem follows_iff_of_decided {script : List Event} {exit : RelayExit}
    (he : relay.phase.decided? = some exit) :
    relay.Follows script ↔ (exit = .eof → Source.Ends script relay.source.taken) := by
  unfold Follows
  cases hp : relay.phase <;> rw [hp] at he <;> cases exit <;> simp_all [Phase.decided?]

theorem Follows.of_decided {script : List Event} {exit : RelayExit} (h : relay.Follows script)
    (he : relay.phase.decided? = some exit) (he' : after.phase.decided? = some exit)
    (hs : after.source = relay.source) : after.Follows script := by
  rw [follows_iff_of_decided he', hs]
  exact (follows_iff_of_decided he).mp h

theorem Step.follows {script : List Event} (h : Step now relay context after shared)
    (hr : 0 < relay.bufferSize) (hf : relay.Follows script) : after.Follows script := by
  cases h with
  | take hp hs =>
    simp only [Follows, hp, Phase.decided?] at hf
    intro tail bytes hb
    have more := hf _ _ (hb.of_pollScript hs nofun)
    simp only [source_enter, Source.taken_mk, Chunk.join_cons, List.append_assoc]
    exact more
  | meetEnd hp hs =>
    simp only [Follows, hp, Phase.decided?] at hf
    obtain ⟨due, later, rfl⟩ := Source.exists_eq_cons_of_pollScript_endOfStream hr hs
    have all := hf _ _ ((Source.Brings.done rfl).of_pollScript hs nofun)
    simp only [Source.Poll.given, List.append_nil] at all
    exact ⟨due, later, all⟩
  | missDeadline hp hs | awaitData hp hs =>
    simp only [Follows, hp, Phase.decided?] at hf
    intro tail bytes hb
    exact hf _ _ (hb.of_pollScript hs nofun)
  | tryRead hp | resumeRead hp | retryRead hp | loseHope hp | tryWrite hp | tryFlush hp
  | refused hp | stalled hp | ignored hp | writePart hp | writeRest hp | resumeWrite hp | flushFailed hp
  | flushPending hp | flushed hp =>
    simp only [Follows, hp, Phase.decided?] at hf
    exact hf
  | record hp =>
    simp only [Follows, hp, Phase.decided?] at hf
    simp only [Follows, phase_complete, source_complete, Phase.decided?]
    exact hf
  | meetFault | haltRead | giveWay | haltWrite => trivial
  | @judge cause hp =>
    cases cause with
    | sourceEnded =>
      simp only [Follows, hp] at hf
      exact hf
    | silence | readFault | writeFault => trivial
  | markBroken hp | leave hp | spareSink hp | turnToSink hp | sinkClosed hp | sinkFailed hp
  | sinkPending hp | sinkDrained hp | drainFailed hp | abandonSink hp =>
    exact hf.of_decided (by rw [hp]; rfl) rfl rfl

/-- What a relay of a script keeps to as long as it runs. -/
structure Faithful (direction : Direction) (bufferSize : Nat) (script : List Event)
    (relay : Relay) : Prop where
  direction_eq : relay.direction = direction
  bufferSize_eq : relay.bufferSize = bufferSize
  discreet : relay.Discreet
  balanced : relay.Balanced
  follows : relay.Follows script

variable {direction : Direction} {bufferSize : Nat} {script : List Event}

theorem faithful_begin (timeout start : Nat) (plan : SinkPlan) :
    (begin direction timeout bufferSize (.ofScript script) (.ofPlan plan) start).Faithful
      direction bufferSize script where
  direction_eq := rfl
  bufferSize_eq := rfl
  discreet _ := by simp [begin]
  balanced := ⟨[], rfl, Nat.zero_le _, by simp [MayHold, begin, Phase.decided?]⟩
  follows _ _ hb := hb

theorem Step.faithful (hr : 0 < bufferSize) (h : Step now relay context after shared)
    (hf : relay.Faithful direction bufferSize script) :
    after.Faithful direction bufferSize script where
  direction_eq := h.setup_eq.1.trans hf.direction_eq
  bufferSize_eq := h.setup_eq.2.2.trans hf.bufferSize_eq
  discreet := h.discreet hf.discreet
  balanced := h.balanced hf.discreet hf.balanced
  follows := h.follows (by rw [hf.bufferSize_eq]; exact hr) hf.follows

theorem Balanced.isPrefix (h : relay.Balanced) : relay.sink.accepted <+: relay.source.taken := by
  obtain ⟨held, split, -, -⟩ := h
  exact ⟨held, split.symm⟩

theorem Balanced.length_taken_le (h : relay.Balanced) :
    relay.source.taken.length ≤ relay.sink.accepted.length + relay.bufferSize := by
  obtain ⟨held, split, fits, -⟩ := h
  rw [split, List.length_append]
  omega

theorem Balanced.accepted_eq (h : relay.Balanced)
    (hp : relay.phase = .flushing ∨ relay.phase = .recording) :
    relay.sink.accepted = relay.source.taken := by
  obtain ⟨held, split, -, may⟩ := h
  have none : held = [] := by
    rcases hp with hp | hp <;> simpa [MayHold, hp, Phase.decided?] using may
  rw [split, none, List.append_nil]

/-- A relay whose end is no fault of its sink has written everything. -/
theorem Balanced.accepted_eq_taken {exit : RelayExit} (h : relay.Balanced)
    (he : relay.phase.decided? = some exit) (hc : exit ≠ .closed)
    (hf : exit = .fault → ∃ kind, .readError relay.direction kind ∈ relay.log) :
    relay.sink.accepted = relay.source.taken := by
  obtain ⟨held, split, -, may⟩ := h
  rcases (mayHold_iff_of_decided he).mp may with h | ⟨h, none⟩ | h
  · exact absurd h hc
  · obtain ⟨kind, hm⟩ := hf h
    exact absurd hm (none kind)
  · rw [split, h, List.append_nil]

end Relay

namespace Tunnel

/-- Whatever happens to a tunnel, what a relay's sink has accepted is a prefix of what was taken from
its source, short of it by at most one read. They are equal once the relay ended for the end of the
stream, for silence or for a fault of its source, and at the end of the stream they are all that the
source brings before it. -/
theorem relay_faithful {allowed : Operation → Prop} {first last : Tunnel} {index : Nat}
    {direction : Direction} {timeout bufferSize start : Nat} {script : List Event} {plan : SinkPlan}
    (hb : 0 < bufferSize)
    (hf : first.relays[index]? =
      some (.begin direction timeout bufferSize (.ofScript script) (.ofPlan plan) start))
    (h : Reaches allowed first last) :
    ∃ relay, last.relays[index]? = some relay ∧
      relay.sink.accepted <+: relay.source.taken ∧
      relay.source.taken.length ≤ relay.sink.accepted.length + bufferSize ∧
      (∀ exit time, relay.exit? = some (exit, time) →
        (exit = .eof ∨ exit = .idle ∨
          exit = .fault ∧ ∃ kind, .readError direction kind ∈ relay.log) →
        relay.sink.accepted = relay.source.taken) ∧
      (∀ time, relay.exit? = some (.eof, time) → Source.Ends script relay.sink.accepted) := by
  obtain ⟨relay, hr, faithful⟩ := h.exists_relay
    (fun hp step => step.faithful hb hp) ⟨_, hf, Relay.faithful_begin timeout start plan⟩
  have decided {exit : RelayExit} {time : Nat} (he : relay.exit? = some (exit, time)) :
      relay.phase.decided? = some exit := by
    rw [Relay.exit?_eq_some_iff.mp he]
    rfl
  have equal (exit : RelayExit) (time : Nat) (he : relay.exit? = some (exit, time))
      (clean : exit = .eof ∨ exit = .idle ∨
        exit = .fault ∧ ∃ kind, .readError direction kind ∈ relay.log) :
      relay.sink.accepted = relay.source.taken := by
    apply faithful.balanced.accepted_eq_taken (decided he)
    · rintro rfl
      simp at clean
    · rintro rfl
      simpa [faithful.direction_eq] using clean
  refine ⟨relay, hr, faithful.balanced.isPrefix, ?_, equal, fun time he => ?_⟩
  · rw [← faithful.bufferSize_eq]
    exact faithful.balanced.length_taken_le
  · rw [equal .eof time he (.inl rfl)]
    exact (Relay.follows_iff_of_decided (decided he)).mp faithful.follows rfl

/-- A client that pauses for longer than a read may take. -/
def halting : List Event := [⟨0, .data [1, 2, 3]⟩, ⟨6, .data [4]⟩, ⟨7, .endOfStream⟩]

/-- A sink that takes one byte at a time and stalls after the first. -/
def sluggish : SinkPlan :=
  { SinkPlan.unrestricted with stalls := [⟨1, some 1⟩], portion := some 1 }

def trickle : Tunnel :=
  setUp ⟨"trickle", false, 4, 2⟩ 0 ⟨.ofScript halting, .ofPlan .unrestricted⟩
    ⟨.ofScript [⟨2, .data [7]⟩], .ofPlan sluggish⟩

theorem relay_faithful_trickle :
    0 < 2 ∧
      trickle.relays[0]? =
        some (.begin .clientToDestination 4 2 (.ofScript halting) (.ofPlan sluggish) 0) ∧
      Reaches (fun _ => False) trickle (trickle.runUntil 100) ∧
      ∃ relay, (trickle.runUntil 100).relays[0]? = some relay ∧
        relay.exit? = some (.eof, 7) ∧ relay.sink.accepted = relay.source.taken ∧
        Source.Ends halting relay.sink.accepted := by
  have hf : trickle.relays[0]? =
      some (.begin .clientToDestination 4 2 (.ofScript halting) (.ofPlan sluggish) 0) := rfl
  have h : Reaches (fun _ => False) trickle (trickle.runUntil 100) :=
    (takesTurns_advance _ _ trickle).reaches
  obtain ⟨relay, hr, -, -, equal, ends⟩ := relay_faithful (by decide) hf h
  have he : (trickle.runUntil 100).relays[0]?.bind Relay.exit? = some (.eof, 7) := by decide
  rw [hr] at he
  exact ⟨by decide, hf, h, relay, hr, he, equal .eof 7 he (.inl rfl), ends 7 he⟩

end Tunnel

end TunnelServer
