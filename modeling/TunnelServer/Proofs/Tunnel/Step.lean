import TunnelServer.Tunnel.Basic

/-!
# What one step of a relay does

Every step of a relay is one of the moves listed here, each with the phase it starts from and the
guard that allows it. What a run preserves is shown move by move.
-/

namespace TunnelServer

namespace Phase

/-- The exit of a relay whose end is decided. -/
def decided? : Phase → Option RelayExit
  | .breaking exit | .leaving exit | .settling exit | .closingSink exit => some exit
  | .draining exit _ | .finished exit _ => some exit
  | _ => none

end Phase

theorem Cause.decided?_end (cause : Cause) :
    (if cause.breaks then Phase.breaking cause.exit else .leaving cause.exit).decided? =
      some cause.exit := by
  split <;> rfl

theorem Context.isReport_of_mem_shutdownNotices {context : Context} {notice : Notice}
    (hm : notice ∈ context.shutdownNotices) : notice.isReport = false := by
  unfold shutdownNotices closeNotice at hm
  split at hm
  · simp at hm
  · rw [List.mem_singleton.mp hm]
    split <;> rfl

namespace Relay

@[simp] theorem phase_enter (relay : Relay) (phase : Phase) : (relay.enter phase).phase = phase := rfl

@[simp] theorem source_enter (relay : Relay) (phase : Phase) :
    (relay.enter phase).source = relay.source := rfl

@[simp] theorem sink_enter (relay : Relay) (phase : Phase) :
    (relay.enter phase).sink = relay.sink := rfl

@[simp] theorem log_enter (relay : Relay) (phase : Phase) :
    (relay.enter phase).log = relay.log := rfl

@[simp] theorem direction_enter (relay : Relay) (phase : Phase) :
    (relay.enter phase).direction = relay.direction := rfl

@[simp] theorem bufferSize_enter (relay : Relay) (phase : Phase) :
    (relay.enter phase).bufferSize = relay.bufferSize := rfl

section complete

variable (relay : Relay) (now : Nat) (debug : Bool)

@[simp] theorem phase_complete : (relay.complete now debug).phase = .reading (now + relay.timeout) := by
  simp only [complete]
  split <;> rfl

@[simp] theorem source_complete : (relay.complete now debug).source = relay.source := by
  simp only [complete]
  split <;> rfl

@[simp] theorem sink_complete : (relay.complete now debug).sink = relay.sink := by
  simp only [complete]
  split <;> rfl

@[simp] theorem direction_complete : (relay.complete now debug).direction = relay.direction := by
  simp only [complete]
  split <;> rfl

@[simp] theorem timeout_complete : (relay.complete now debug).timeout = relay.timeout := by
  simp only [complete]
  split <;> rfl

@[simp] theorem bufferSize_complete : (relay.complete now debug).bufferSize = relay.bufferSize := by
  simp only [complete]
  split <;> rfl

@[simp] theorem completed_complete :
    (relay.complete now debug).completed = now :: relay.completed := by
  simp only [complete]
  split <;> rfl

theorem log_complete : (relay.complete now debug).log = relay.log ++
    if debug && relay.direction = .destinationToClient then [.bufferSizes] else [] := by
  simp only [complete]
  split
  · rfl
  · exact (List.append_nil _).symm

end complete

/-- The moves of a relay, with what the directions share. -/
inductive Step (now : Nat) (relay : Relay) (context : Context) : Relay → Context → Prop where
  | haltRead {deadline} :
      relay.phase = .reading deadline → context.closing = true →
      Step now relay context (relay.enter (.leaving .closed)) context
  | tryRead {deadline} :
      relay.phase = .reading deadline → context.closing = false →
      Step now relay context (relay.enter (.polling deadline)) context
  | take {deadline chunk rest} :
      relay.phase = .polling deadline →
      Source.pollScript relay.bufferSize now relay.source.script = (.bytes chunk, rest) →
      Step now relay context
        ({ relay with source := ⟨rest, ⟨now, chunk⟩ :: relay.source.chunks⟩ }.enter
          (.writing chunk)) context
  | meetEnd {deadline rest} :
      relay.phase = .polling deadline →
      Source.pollScript relay.bufferSize now relay.source.script = (.endOfStream, rest) →
      Step now relay context
        ({ relay with source := ⟨rest, relay.source.chunks⟩ }.enter (.judging .sourceEnded))
        context
  | meetFault {deadline kind rest} :
      relay.phase = .polling deadline →
      Source.pollScript relay.bufferSize now relay.source.script = (.fault kind, rest) →
      Step now relay context
        ({ relay with source := ⟨rest, relay.source.chunks⟩ }.enter (.judging (.readFault kind)))
        context
  | missDeadline {deadline wake rest} :
      relay.phase = .polling deadline →
      Source.pollScript relay.bufferSize now relay.source.script = (.pending wake, rest) →
      deadline ≤ now →
      Step now relay context
        ({ relay with source := ⟨rest, relay.source.chunks⟩ }.enter .overdue) context
  | awaitData {deadline wake rest} :
      relay.phase = .polling deadline →
      Source.pollScript relay.bufferSize now relay.source.script = (.pending wake, rest) →
      now < deadline →
      Step now relay context
        ({ relay with source := ⟨rest, relay.source.chunks⟩ }.enter (.awaitingData deadline wake))
        context
  | resumeRead {deadline wake} :
      relay.phase = .awaitingData deadline wake →
      (context.closing = true ∨ deadline ≤ now ∨ isDue now wake = true) →
      Step now relay context (relay.enter (.reading deadline)) context
  | retryRead :
      relay.phase = .overdue →
      context.wroteWithin now relay.direction.opposite relay.timeout = true →
      Step now relay context (relay.enter (.reading (now + relay.timeout))) context
  | loseHope :
      relay.phase = .overdue →
      context.wroteWithin now relay.direction.opposite relay.timeout = false →
      Step now relay context (relay.enter (.judging .silence)) context
  | giveWay {cause} :
      relay.phase = .judging cause → context.closing = true →
      Step now relay context (relay.enter (.leaving .closed)) context
  | judge {cause} :
      relay.phase = .judging cause → context.closing = false →
      Step now relay context
        ((relay.report (cause.report relay.direction)).enter
          (if cause.breaks then .breaking cause.exit else .leaving cause.exit)) context
  | markBroken {exit} :
      relay.phase = .breaking exit →
      Step now relay context (relay.enter (.leaving exit)) context.markBroken
  | haltWrite {rest} :
      relay.phase = .writing rest → context.closing = true →
      Step now relay context (relay.enter (.leaving .closed)) context
  | tryWrite {rest} :
      relay.phase = .writing rest → context.closing = false → rest ≠ [] →
      Step now relay context (relay.enter (.offering rest)) context
  | tryFlush :
      relay.phase = .writing [] → context.closing = false →
      Step now relay context (relay.enter .flushing) context
  | refused {rest kind} :
      relay.phase = .offering rest → relay.sink.offer now rest.length = .fault kind →
      Step now relay context ((relay.ask .write).enter (.judging (.writeFault kind))) context
  | stalled {rest release} :
      relay.phase = .offering rest → relay.sink.offer now rest.length = .pending release →
      Step now relay context ((relay.ask .write).enter (.awaitingRoom rest release)) context
  | ignored {rest} :
      relay.phase = .offering rest → relay.sink.offer now rest.length = .accepts 0 →
      Step now relay context ((relay.ask .write).enter (.judging (.writeFault .writeZero))) context
  | writePart {rest count} :
      relay.phase = .offering rest → relay.sink.offer now rest.length = .accepts count →
      0 < count → count < rest.length →
      Step now relay context
        ({ relay.ask .write with sink := (relay.ask .write).sink.accept now (rest.take count) }.enter
          (.offering (rest.drop count))) context
  | writeRest {rest count} :
      relay.phase = .offering rest → relay.sink.offer now rest.length = .accepts count →
      0 < count → rest.length ≤ count →
      Step now relay context
        ({ relay.ask .write with sink := (relay.ask .write).sink.accept now rest }.enter .flushing)
        context
  | resumeWrite {rest release} :
      relay.phase = .awaitingRoom rest release →
      (context.closing = true ∨ isDue now release = true) →
      Step now relay context (relay.enter (.writing rest)) context
  | flushFailed {kind} :
      relay.phase = .flushing → relay.sink.flushReply now = .fault kind →
      Step now relay context ((relay.ask .flush).enter (.judging (.writeFault kind))) context
  | flushPending {release} :
      relay.phase = .flushing → relay.sink.flushReply now = .pending release →
      Step now relay context ((relay.ask .flush).enter (.awaitingRoom [] release)) context
  | flushed :
      relay.phase = .flushing → relay.sink.flushReply now = .done →
      Step now relay context
        ({ relay.ask .flush with sink := (relay.ask .flush).sink.markFlush }.enter .recording)
        context
  | record :
      relay.phase = .recording →
      Step now relay context (relay.complete now context.debug)
        (context.recordWrite now relay.direction)
  | leave {exit} :
      relay.phase = .leaving exit →
      Step now relay context
        ({ relay with
            log := relay.log ++ Notice.finished relay.direction exit :: context.shutdownNotices }.enter
          (.settling exit)) (context.shutdown now)
  | spareSink {exit} :
      relay.phase = .settling exit → context.broken = true →
      Step now relay context (relay.enter (.finished exit now)) context
  | turnToSink {exit} :
      relay.phase = .settling exit → context.broken = false →
      Step now relay context (relay.enter (.closingSink exit)) context
  | sinkClosed {exit} :
      relay.phase = .closingSink exit → relay.sink.shutdownReply now = .done →
      Step now relay context
        ({ relay.ask .shutdown with sink := (relay.ask .shutdown).sink.markShutdown now }.enter
          (.finished exit now)) context
  | sinkFailed {exit kind} :
      relay.phase = .closingSink exit → relay.sink.shutdownReply now = .fault kind →
      Step now relay context
        (({ relay.ask .shutdown with
              sink := (relay.ask .shutdown).sink.markShutdown now }.report
            (.sinkFailed relay.direction kind)).enter (.finished exit now)) context
  | sinkPending {exit release} :
      relay.phase = .closingSink exit → relay.sink.shutdownReply now = .pending release →
      Step now relay context
        ({ relay.ask .shutdown with sink := (relay.ask .shutdown).sink.markShutdown now }.enter
          (.draining exit (now + Millis.closeLimit))) context
  | sinkDrained {exit deadline} :
      relay.phase = .draining exit deadline → relay.sink.shutdownReply now = .done →
      Step now relay context (relay.enter (.finished exit now)) context
  | drainFailed {exit deadline kind} :
      relay.phase = .draining exit deadline → relay.sink.shutdownReply now = .fault kind →
      Step now relay context
        ((relay.report (.sinkFailed relay.direction kind)).enter (.finished exit now)) context
  | abandonSink {exit deadline release} :
      relay.phase = .draining exit deadline → relay.sink.shutdownReply now = .pending release →
      deadline ≤ now →
      Step now relay context
        ((relay.report (.sinkTimedOut relay.direction)).enter (.finished exit now)) context

variable {now : Nat} {relay after : Relay} {context shared : Context}

theorem Step.poll {deadline : Nat} (hp : relay.phase = .polling deadline) :
    Step now relay context (relay.poll now deadline) context := by
  unfold Relay.poll Source.poll
  rcases hs : Source.pollScript relay.bufferSize now relay.source.script with ⟨answer, rest⟩
  cases answer with
  | bytes chunk => exact .take hp hs
  | endOfStream => exact .meetEnd hp hs
  | fault kind => exact .meetFault hp hs
  | pending wake =>
    by_cases late : deadline ≤ now
    · simpa [late] using Step.missDeadline hp hs late
    · simpa [late] using Step.awaitData hp hs (Nat.lt_of_not_le late)

theorem Step.push {rest : List UInt8} (hp : relay.phase = .offering rest) :
    Step now relay context (relay.push now rest) context := by
  unfold Relay.push
  have same : (relay.ask .write).sink.offer now rest.length = relay.sink.offer now rest.length := rfl
  cases ho : relay.sink.offer now rest.length with
  | fault kind => simpa [same, ho] using Step.refused hp ho
  | pending release => simpa [same, ho] using Step.stalled hp ho
  | accepts count =>
    cases count with
    | zero => simpa [same, ho] using Step.ignored hp ho
    | succ count =>
      by_cases part : count + 1 < rest.length
      · have left : rest.drop (count + 1) ≠ [] := by
          simpa [List.drop_eq_nil_iff] using part
        simp only [same, ho]
        exact .writePart hp ho (Nat.succ_pos count) part
      · have all : rest.length ≤ count + 1 := Nat.le_of_not_lt part
        have taken : rest.take (count + 1) = rest := List.take_of_length_le all
        have none : rest.drop (count + 1) = [] := List.drop_eq_nil_of_le all
        simp only [same, ho, none, taken]
        exact .writeRest hp ho (Nat.succ_pos count) all

theorem Step.flush (hp : relay.phase = .flushing) :
    Step now relay context (relay.flush now) context := by
  unfold Relay.flush
  have same : (relay.ask .flush).sink.flushReply now = relay.sink.flushReply now := rfl
  cases hf : relay.sink.flushReply now with
  | fault kind => simpa [same, hf] using Step.flushFailed hp hf
  | pending release => simpa [same, hf] using Step.flushPending hp hf
  | done => simpa [same, hf] using Step.flushed hp hf

theorem Step.closeSink {exit : RelayExit} (hp : relay.phase = .closingSink exit) :
    Step now relay context (relay.closeSink now exit) context := by
  unfold Relay.closeSink
  have same : ((relay.ask .shutdown).sink.markShutdown now).shutdownReply now =
    relay.sink.shutdownReply now := rfl
  cases hs : relay.sink.shutdownReply now with
  | done => simpa [same, hs] using Step.sinkClosed hp hs
  | fault kind =>
    simp only [same, hs]
    exact .sinkFailed hp hs
  | pending release => simpa [same, hs] using Step.sinkPending hp hs

theorem Step.drain {exit : RelayExit} {deadline : Nat} (hp : relay.phase = .draining exit deadline)
    (h : relay.drain? now exit deadline = some after) : Step now relay context after context := by
  unfold Relay.drain? at h
  split at h
  case h_1 hs =>
    cases h
    exact .sinkDrained hp hs
  case h_2 hs =>
    cases h
    exact .drainFailed hp hs
  case h_3 hs =>
    obtain ⟨late, rfl⟩ := by simpa using h
    exact .abandonSink hp hs late

theorem Step.of_step? (h : relay.step? now context = some (after, shared)) :
    Step now relay context after shared := by
  cases hp : relay.phase with
  | reading deadline =>
    simp only [step?, hp, Option.some.injEq, Prod.mk.injEq] at h
    obtain ⟨rfl, rfl⟩ := h
    cases hc : context.closing with
    | true => exact .haltRead hp hc
    | false => exact .tryRead hp hc
  | polling deadline =>
    simp only [step?, hp, Option.some.injEq, Prod.mk.injEq] at h
    obtain ⟨rfl, rfl⟩ := h
    exact .poll hp
  | awaitingData deadline wake =>
    simp only [step?, hp, Option.ite_none_right_eq_some, Option.some.injEq, Prod.mk.injEq] at h
    obtain ⟨due, rfl, rfl⟩ := h
    exact .resumeRead hp (by simpa [or_assoc] using due)
  | overdue =>
    simp only [step?, hp] at h
    split at h <;> cases h
    · exact .retryRead hp ‹_›
    · exact .loseHope hp (eq_false_of_ne_true ‹¬ _›)
  | judging cause =>
    simp only [step?, hp] at h
    split at h <;> cases h
    · exact .giveWay hp ‹_›
    · exact .judge hp (eq_false_of_ne_true ‹¬ _›)
  | breaking exit =>
    simp only [step?, hp, Option.some.injEq, Prod.mk.injEq] at h
    obtain ⟨rfl, rfl⟩ := h
    exact .markBroken hp
  | writing rest =>
    simp only [step?, hp, Option.some.injEq, Prod.mk.injEq] at h
    obtain ⟨rfl, rfl⟩ := h
    cases hc : context.closing with
    | true => exact .haltWrite hp hc
    | false =>
      by_cases none : rest = []
      · subst none
        exact .tryFlush hp hc
      · simp only [none, if_false]
        exact .tryWrite hp hc none
  | offering rest =>
    simp only [step?, hp, Option.some.injEq, Prod.mk.injEq] at h
    obtain ⟨rfl, rfl⟩ := h
    exact .push hp
  | awaitingRoom rest release =>
    simp only [step?, hp, Option.ite_none_right_eq_some, Option.some.injEq, Prod.mk.injEq] at h
    obtain ⟨due, rfl, rfl⟩ := h
    exact .resumeWrite hp (by simpa using due)
  | flushing =>
    simp only [step?, hp, Option.some.injEq, Prod.mk.injEq] at h
    obtain ⟨rfl, rfl⟩ := h
    exact .flush hp
  | recording =>
    simp only [step?, hp, Option.some.injEq, Prod.mk.injEq] at h
    obtain ⟨rfl, rfl⟩ := h
    exact .record hp
  | leaving exit =>
    simp only [step?, hp, Option.some.injEq, Prod.mk.injEq] at h
    obtain ⟨rfl, rfl⟩ := h
    exact .leave hp
  | settling exit =>
    simp only [step?, hp, Option.some.injEq, Prod.mk.injEq] at h
    obtain ⟨rfl, rfl⟩ := h
    cases hb : context.broken with
    | true => exact .spareSink hp hb
    | false => exact .turnToSink hp hb
  | closingSink exit =>
    simp only [step?, hp, Option.some.injEq, Prod.mk.injEq] at h
    obtain ⟨rfl, rfl⟩ := h
    exact .closeSink hp
  | draining exit deadline =>
    simp only [step?, hp, Option.map_eq_some_iff, Prod.mk.injEq] at h
    obtain ⟨drained, hd, rfl, rfl⟩ := h
    exact .drain hp hd
  | finished exit time => simp [step?, hp] at h

theorem exit?_eq_some_iff {exit : RelayExit} {time : Nat} :
    relay.exit? = some (exit, time) ↔ relay.phase = .finished exit time := by
  unfold exit?
  split
  · rename_i hp
    rw [hp, Option.some.injEq, Prod.mk.injEq, Phase.finished.injEq]
  · rename_i hp
    constructor
    · intro h
      cases h
    · intro h
      exact absurd h (hp exit time)

theorem Step.setup_eq (h : Step now relay context after shared) :
    after.direction = relay.direction ∧ after.timeout = relay.timeout ∧
      after.bufferSize = relay.bufferSize := by
  cases h with
  | record => exact ⟨direction_complete .., timeout_complete .., bufferSize_complete ..⟩
  | _ => exact ⟨rfl, rfl, rfl⟩

theorem Step.isPrefix_taken (h : Step now relay context after shared) :
    relay.source.taken <+: after.source.taken := by
  cases h with
  | @take _ chunk =>
    show _ <+: Chunk.join (⟨now, chunk⟩ :: relay.source.chunks)
    rw [Chunk.join_cons]
    exact List.prefix_append ..
  | record => simp only [source_complete, List.prefix_refl]
  | _ => exact List.prefix_refl _

end Relay

namespace Tunnel

/-- What the steps of a relay preserve holds of it after any moves of its tunnel. -/
theorem Reaches.exists_relay {allowed : Operation → Prop} {first last : Tunnel}
    (h : Reaches allowed first last) {P : Relay → Prop}
    (keep : ∀ {now relay context after shared},
      P relay → Relay.Step now relay context after shared → P after)
    {index : Nat} (hf : ∃ relay, first.relays[index]? = some relay ∧ P relay) :
    ∃ relay, last.relays[index]? = some relay ∧ P relay := by
  induction h with
  | refl => exact hf
  | tail _ move ih =>
    obtain ⟨relay, hr, hp⟩ := ih
    cases move with
    | elapse => exact ⟨relay, hr, hp⟩
    | call => exact ⟨relay, hr, hp⟩
    | @step place before after _ hb hs =>
      by_cases same : place = index
      · subst same
        obtain rfl : before = relay := Option.some.inj (hb.symm.trans hr)
        obtain ⟨bound, -⟩ := List.getElem?_eq_some_iff.mp hr
        refine ⟨after, ?_, keep hp (.of_step? hs)⟩
        simp [replace, bound]
      · refine ⟨relay, ?_, hp⟩
        simpa [replace, List.getElem?_set_ne same] using hr

end Tunnel

end TunnelServer
