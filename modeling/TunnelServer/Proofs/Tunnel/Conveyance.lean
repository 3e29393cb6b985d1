import TunnelServer.Proofs.Stream.Arrival
import TunnelServer.Proofs.Tunnel.Progress

/-!
# A relay conveys what its source brings

A source brings bytes and then ends, and no byte is longer in coming than a read may take. As long
as no other relay ends the tunnel, a relay to a sink that takes everything conveys them all,
however they are divided and whatever the size of its buffer, and ends for the end of the stream.
-/

namespace TunnelServer

open Source (Ends Resumes readyAt)

/-- A sink with this plan takes everything at once, in portions of some size. How it reacts to being
shut down is left open. -/
structure SinkPlan.Absorbs (plan : SinkPlan) : Prop where
  sound : plan.fault = none
  roomy : plan.capacity = none
  moving : plan.stalls = []
  portion : plan.portion ≠ some 0
  flush : ∀ count, plan.flush.nth count = .succeeds

theorem Sink.exists_offer_eq_accepts {sink : Sink} (h : sink.plan.Absorbs) (now : Nat)
    {length : Nat} (hl : 0 < length) : ∃ count, 0 < count ∧ count ≤ length ∧
      sink.offer now length = .accepts count := by
  simp only [offer, h.sound, offerCapacity, h.roomy, offerStalls, h.moving, releaseAt,
    List.foldr_nil, Nat.not_lt_zero, if_false, roomBeforeStalls, offerPortion]
  cases hp : sink.plan.portion with
  | none => exact ⟨length, hl, Nat.le_refl _, rfl⟩
  | some most =>
    have positive : most ≠ 0 := fun he => h.portion (he ▸ hp)
    exact ⟨min length most, by omega, Nat.min_le_left .., rfl⟩

namespace Relay

variable {now later : Nat} {relay after : Relay} {context shared : Context}

/-- What suits a relay to convey everything, which no step changes. -/
structure Suits (window : Nat) (relay : Relay) : Prop where
  timeout_eq : relay.timeout = window
  room : 0 < relay.bufferSize
  absorbs : relay.sink.plan.Absorbs

theorem Step.plan_eq (h : Step now relay context after shared) :
    after.sink.plan = relay.sink.plan := by
  cases h with
  | record => rw [sink_complete]
  | _ => rfl

theorem Step.suits {window : Nat} (h : Step now relay context after shared)
    (hs : relay.Suits window) : after.Suits window where
  timeout_eq := h.setup_eq.2.1.trans hs.timeout_eq
  room := by
    rw [h.setup_eq.2.2]
    exact hs.room
  absorbs := by
    rw [h.plan_eq]
    exact hs.absorbs

section Conveys

variable (script : List Event) (payload : List UInt8) (start : Nat)

/-- What was written, what is held, and what the rest of the script brings make up the payload, and
the rest has its bytes when the script has them. -/
structure Carries (now : Nat) (left : List Event) (written held : List UInt8) : Prop where
  split : ∃ rest, payload = written ++ held ++ rest ∧ Ends left rest
  resumes : Resumes (written.length + held.length) now script left

/-- When what comes after these bytes arrives. -/
def nextAt (written : List UInt8) : Nat := readyAt start (written.length + 1) script

/-- A relay that reads in an open tunnel has what it reads before the deadline. -/
structure Reads (now : Nat) (closing : Bool) (deadline : Nat) (left : List Event)
    (written : List UInt8) : Prop where
  opened : closing = false
  carries : Carries script payload now left written []
  ahead : now ≤ nextAt script start written
  within : nextAt script start written ≤ deadline

/-- A relay that writes in an open tunnel does so as soon as the bytes are there. -/
structure Writes (now : Nat) (closing : Bool) (left : List Event) (written held : List UInt8) :
    Prop where
  opened : closing = false
  carries : Carries script payload now left written held
  prompt : now ≤ readyAt start (written.length + held.length) script

/-- The whole payload was written, and nobody waited after the end of the stream arrived. -/
structure Delivers (now : Nat) (written : List UInt8) : Prop where
  all : written = payload
  prompt : now ≤ readyAt start (payload.length + 1) script

/-- How far a relay may be with a payload. -/
inductive Conveys (now : Nat) (closing : Bool) (relay : Relay) : Prop where
  | reading {deadline : Nat} : relay.phase = .reading deadline →
      Reads script payload start now closing deadline relay.source.script relay.sink.accepted →
      Conveys now closing relay
  | polling {deadline : Nat} : relay.phase = .polling deadline →
      Reads script payload start now closing deadline relay.source.script relay.sink.accepted →
      Conveys now closing relay
  | awaitingData {deadline time : Nat} : relay.phase = .awaitingData deadline (some time) →
      Reads script payload start now closing deadline relay.source.script relay.sink.accepted →
      time ≤ nextAt script start relay.sink.accepted → Conveys now closing relay
  | writing {held : List UInt8} : relay.phase = .writing held → held ≠ [] →
      Writes script payload start now closing relay.source.script relay.sink.accepted held →
      Conveys now closing relay
  | offering {held : List UInt8} : relay.phase = .offering held → held ≠ [] →
      Writes script payload start now closing relay.source.script relay.sink.accepted held →
      Conveys now closing relay
  | written : (relay.phase = .flushing ∨ relay.phase = .recording) →
      Writes script payload start now closing relay.source.script relay.sink.accepted [] →
      Conveys now closing relay
  | judging : relay.phase = .judging .sourceEnded → closing = false →
      Delivers script payload start now relay.sink.accepted → Conveys now closing relay
  | leaving : (relay.phase = .leaving .eof ∨ relay.phase = .settling .eof ∨
      relay.phase = .closingSink .eof) → Delivers script payload start now relay.sink.accepted →
      Conveys now closing relay
  | draining {deadline : Nat} : relay.phase = .draining .eof deadline →
      relay.sink.accepted = payload → now ≤ deadline →
      deadline ≤ readyAt start (payload.length + 1) script + Millis.closeLimit →
      Conveys now closing relay
  | finished {time : Nat} : relay.phase = .finished .eof time → relay.sink.accepted = payload →
      Conveys now closing relay

end Conveys

variable {script : List Event} {payload held : List UInt8} {start window deadline : Nat}
  {closing : Bool}

theorem Carries.mono {left : List Event} {written : List UInt8}
    (h : Carries script payload now left written held) (hl : now ≤ later) :
    Carries script payload later left written held := ⟨h.split, h.resumes.mono hl⟩

theorem Reads.readyAt_eq (h : Reads script payload start now closing deadline relay.source.script
    relay.sink.accepted) (hs : start ≤ now) :
    readyAt now 1 relay.source.script = nextAt script start relay.sink.accepted := by
  rw [h.carries.resumes now 1 (Nat.le_refl now)]
  exact Source.readyAt_eq_of_le hs h.ahead

/-- A read takes some of the payload, meets its end, or waits until some of it arrives. -/
theorem Reads.poll (h : Reads script payload start now closing deadline relay.source.script
    relay.sink.accepted) (hb : 0 < relay.bufferSize) (hs : start ≤ now) :
    (relay.poll now deadline).Conveys script payload start now closing := by
  have ready := h.readyAt_eq hs
  obtain ⟨rest, split, due, after, brings⟩ := h.carries.split
  unfold Relay.poll Source.poll
  rcases hp : Source.pollScript relay.bufferSize now relay.source.script with ⟨answer, left⟩
  obtain ⟨rest', given, brings', resumes, ended, sound, waits⟩ := brings.poll hb hp
  rw [ready] at waits
  have whole := h.carries.resumes.trans resumes (Nat.le_refl now)
  cases answer with
  | bytes chunk =>
    obtain ⟨-, some⟩ := Source.load_of_pollScript_bytes hp
    refine .writing rfl (List.length_pos_iff.mp some) ⟨h.opened, ⟨⟨rest', ?_, due, after, brings'⟩,
      whole⟩, ?_⟩
    · rw [split, given, List.append_nil, List.append_assoc]
      rfl
    · exact Nat.le_trans h.ahead (Source.readyAt_mono (Nat.add_le_add_left some _))
  | endOfStream =>
    rw [ended rfl, List.append_nil, List.append_nil] at split
    refine .judging rfl h.opened ⟨split.symm, ?_⟩
    rw [split]
    exact h.ahead
  | fault kind => exact absurd rfl (sound kind)
  | pending wake =>
    obtain ⟨time, rfl, soon⟩ := waits wake rfl
    have wait := Source.lt_of_pollScript_pending hp
    have within := h.within
    simp only [if_neg (show ¬ deadline ≤ now by omega)]
    refine .awaitingData rfl
      ⟨h.opened, ⟨⟨rest', ?_, due, after, brings'⟩, whole⟩, h.ahead, within⟩ soon
    rw [split, given]
    rfl

theorem Writes.part {left : List Event} {written front back : List UInt8}
    (h : Writes script payload start now closing left written (front ++ back)) :
    Writes script payload start now closing left (written ++ front) back := by
  obtain ⟨opened, ⟨⟨rest, split, ends⟩, resumes⟩, prompt⟩ := h
  rw [List.length_append, ← Nat.add_assoc, ← List.length_append] at resumes prompt
  refine ⟨opened, ⟨⟨rest, ?_, ends⟩, resumes⟩, prompt⟩
  rw [split, ← List.append_assoc written]

theorem Writes.push (h : Writes script payload start now closing relay.source.script
    relay.sink.accepted held) (some : held ≠ []) (ha : relay.sink.plan.Absorbs) :
    (relay.push now held).Conveys script payload start now closing := by
  have same : (relay.ask .write).sink.offer now held.length = relay.sink.offer now held.length := rfl
  have grown (bytes : List UInt8) : ((relay.ask .write).sink.accept now bytes).accepted =
      relay.sink.accepted ++ bytes := Sink.accepted_accept ..
  obtain ⟨count, positive, -, offer⟩ :=
    Sink.exists_offer_eq_accepts ha now (List.length_pos_iff.mpr some)
  obtain ⟨count, rfl⟩ := Nat.exists_eq_succ_of_ne_zero (Nat.ne_of_gt positive)
  rw [← List.take_append_drop (count + 1) held] at h
  have after := h.part
  rw [← grown] at after
  unfold Relay.push
  simp only [same, offer]
  cases left : held.drop (count + 1) with
  | nil =>
    rw [left] at after
    exact .written (.inl rfl) after
  | cons b more =>
    rw [left] at after
    exact .offering rfl (List.cons_ne_nil b more) after

theorem Writes.complete (h : Writes script payload start now closing relay.source.script
    relay.sink.accepted []) (ht : relay.timeout = window) (debug : Bool)
    (paced : ∀ count ≤ payload.length,
      readyAt start (count + 1) script ≤ readyAt start count script + window) (hs : start ≤ now) :
    (relay.complete now debug).Conveys script payload start now closing := by
  obtain ⟨rest, split, ends⟩ := h.carries.split
  have few : relay.sink.accepted.length ≤ payload.length := by
    rw [split, List.append_nil, List.length_append]
    exact Nat.le_add_right ..
  have past : readyAt start relay.sink.accepted.length script ≤ now := by
    rw [← h.carries.resumes.readyAt_eq]
    exact Source.readyAt_mono_start hs
  have soon := paced _ few
  refine .reading (phase_complete ..) ⟨h.opened, ⟨⟨rest, ?_, ?_⟩, ?_⟩, ?_, ?_⟩
  · rwa [sink_complete]
  · rwa [source_complete]
  · rw [sink_complete, source_complete]
    exact h.carries.resumes
  · rw [nextAt, sink_complete]
    exact Nat.le_trans h.prompt (Source.readyAt_mono (Nat.le_succ _))
  · rw [nextAt, sink_complete, ht]
    omega

theorem Delivers.closeSink (h : Delivers script payload start now relay.sink.accepted) :
    (relay.closeSink now .eof).Conveys script payload start now closing := by
  unfold Relay.closeSink
  simp only
  split
  · exact .finished rfl h.all
  · exact .finished rfl h.all
  · exact .draining rfl h.all (Nat.le_add_right ..) (Nat.add_le_add_right h.prompt _)

theorem Conveys.step (h : relay.Conveys script payload start now context.closing)
    (suits : relay.Suits window) (hs : start ≤ now)
    (paced : ∀ count ≤ payload.length,
      readyAt start (count + 1) script ≤ readyAt start count script + window)
    (step : relay.step? now context = some (after, shared)) :
    after.Conveys script payload start now shared.closing := by
  cases h with
  | reading hp reads =>
    simp only [step?, hp, reads.opened, Option.some.injEq, Prod.mk.injEq] at step
    obtain ⟨rfl, rfl⟩ := step
    exact .polling rfl reads
  | polling hp reads =>
    simp only [step?, hp, Option.some.injEq, Prod.mk.injEq] at step
    obtain ⟨rfl, rfl⟩ := step
    exact reads.poll suits.room hs
  | awaitingData hp reads =>
    simp only [step?, hp, Option.ite_none_right_eq_some, Option.some.injEq, Prod.mk.injEq] at step
    obtain ⟨-, rfl, rfl⟩ := step
    exact .reading rfl reads
  | writing hp some writes =>
    simp only [step?, hp, writes.opened, some, Option.some.injEq, Prod.mk.injEq] at step
    obtain ⟨rfl, rfl⟩ := step
    exact .offering rfl some writes
  | offering hp some writes =>
    simp only [step?, hp, Option.some.injEq, Prod.mk.injEq] at step
    obtain ⟨rfl, rfl⟩ := step
    exact writes.push some suits.absorbs
  | written hp writes =>
    rcases hp with hp | hp <;>
      simp only [step?, hp, Option.some.injEq, Prod.mk.injEq] at step <;> obtain ⟨rfl, rfl⟩ := step
    · have done : (relay.ask .flush).sink.flushReply now = .done := by
        show Completion.reply now (relay.sink.plan.flush.nth relay.sink.flushes) = .done
        rw [suits.absorbs.flush, Completion.reply_succeeds]
      simp only [Relay.flush, done]
      exact .written (.inr rfl) writes
    · have opened : (context.recordWrite now relay.direction).closing = context.closing := by
        cases relay.direction <;> rfl
      rw [opened]
      exact writes.complete suits.timeout_eq context.debug paced hs
  | judging hp opened delivers =>
    simp only [step?, hp, opened] at step
    cases step
    exact .leaving (.inl rfl) delivers
  | leaving hp delivers =>
    rcases hp with hp | hp | hp <;>
      simp only [step?, hp, Option.some.injEq, Prod.mk.injEq] at step <;> obtain ⟨rfl, rfl⟩ := step
    · exact .leaving (.inr (.inl rfl)) delivers
    · cases context.broken with
      | true => exact .finished rfl delivers.all
      | false => exact .leaving (.inr (.inr rfl)) delivers
    · exact delivers.closeSink
  | draining hp accepted =>
    simp only [step?, hp, Option.map_eq_some_iff, Prod.mk.injEq] at step
    obtain ⟨drained, hd, rfl, rfl⟩ := step
    obtain ⟨hq, same, -⟩ := drain?_cases hd
    exact .finished hq (by rw [same, accepted])
  | finished hp => simp [step?, hp] at step

theorem Conveys.elapse (h : relay.Conveys script payload start now closing) (hl : now ≤ later)
    (idle : relay.Idles now context later) :
    relay.Conveys script payload start later closing := by
  have waiting := waiting_of_step? idle.1
  cases h with
  | @awaitingData deadline time hp reads soon =>
    have before : later ≤ nextAt script start relay.sink.accepted := by
      have wake := idle.2 (min deadline time) (by simp [wake?, hp])
      omega
    exact .awaitingData hp ⟨reads.opened, reads.carries.mono hl, before, reads.within⟩ soon
  | draining hp accepted _ most =>
    exact .draining hp accepted (idle.le_of_draining hp) most
  | finished hp accepted => exact .finished hp accepted
  | reading hp | polling hp | writing hp | offering hp | judging hp => simp [hp] at waiting
  | written hp => rcases hp with hp | hp <;> simp [hp] at waiting
  | leaving hp => rcases hp with hp | hp | hp <;> simp [hp] at waiting

theorem Conveys.congr {closing' : Bool} (h : relay.Conveys script payload start now closing)
    (hc : closing = false → relay.phase.decided? = none → closing' = false) :
    relay.Conveys script payload start now closing' := by
  cases h with
  | reading hp reads =>
    exact .reading hp { reads with opened := hc reads.opened (by rw [hp]; rfl) }
  | polling hp reads =>
    exact .polling hp { reads with opened := hc reads.opened (by rw [hp]; rfl) }
  | awaitingData hp reads soon =>
    exact .awaitingData hp { reads with opened := hc reads.opened (by rw [hp]; rfl) } soon
  | writing hp some writes =>
    exact .writing hp some { writes with opened := hc writes.opened (by rw [hp]; rfl) }
  | offering hp some writes =>
    exact .offering hp some { writes with opened := hc writes.opened (by rw [hp]; rfl) }
  | written hp writes =>
    refine .written hp { writes with opened := hc writes.opened ?_ }
    rcases hp with hp | hp <;> rw [hp] <;> rfl
  | judging hp opened delivers => exact .judging hp (hc opened (by rw [hp]; rfl)) delivers
  | leaving hp delivers => exact .leaving hp delivers
  | draining hp accepted ahead most => exact .draining hp accepted ahead most
  | finished hp accepted => exact .finished hp accepted

/-- When the end of the stream is past, and the time for closing the sink too, the relay is
finished. -/
theorem Conveys.finished_of_lt (h : relay.Conveys script payload start now closing)
    (late : readyAt start (payload.length + 1) script + Millis.closeLimit < now) :
    relay.exit?.isSome := by
  have sooner (count : Nat) (hc : count ≤ payload.length + 1) :
      readyAt start count script ≤ readyAt start (payload.length + 1) script :=
    Source.readyAt_mono hc
  have few {held : List UInt8}
      (hc : Carries script payload now relay.source.script relay.sink.accepted held) :
      relay.sink.accepted.length + held.length ≤ payload.length := by
    obtain ⟨rest, split, -⟩ := hc.split
    rw [split, List.length_append, List.length_append]
    exact Nat.le_add_right ..
  have reads {deadline : Nat} (hr : Reads script payload start now closing deadline
      relay.source.script relay.sink.accepted) : False := by
    have most := few hr.carries
    have early := sooner (relay.sink.accepted.length + 1) (by simpa using most)
    have ahead := hr.ahead
    unfold nextAt at ahead
    omega
  have writes {held : List UInt8} (hw : Writes script payload start now closing
      relay.source.script relay.sink.accepted held) : False := by
    have early := sooner _ (Nat.le_succ_of_le (few hw.carries))
    have prompt := hw.prompt
    omega
  cases h with
  | reading _ hr | polling _ hr | awaitingData _ hr => exact (reads hr).elim
  | writing _ _ hw | offering _ _ hw | written _ hw => exact (writes hw).elim
  | judging _ _ hd | leaving _ hd =>
    have prompt := hd.prompt
    omega
  | draining _ _ ahead most => omega
  | finished hp =>
    rw [exit?_eq_some_iff.mpr hp]
    rfl

theorem Conveys.of_exit? {exit : RelayExit} {time : Nat}
    (h : relay.Conveys script payload start now closing) (he : relay.exit? = some (exit, time)) :
    exit = .eof ∧ relay.sink.accepted = payload := by
  have hq := exit?_eq_some_iff.mp he
  cases h with
  | finished hp accepted =>
    rw [hp] at hq
    cases hq
    exact ⟨rfl, accepted⟩
  | reading hp | polling hp | awaitingData hp | writing hp | offering hp | judging hp
  | draining hp =>
    rw [hp] at hq
    cases hq
  | written hp => rcases hp with hp | hp <;> rw [hp] at hq <;> cases hq
  | leaving hp => rcases hp with hp | hp | hp <;> rw [hp] at hq <;> cases hq

end Relay

namespace Tunnel

/-- No relay but this one has ended the tunnel. -/
def LeftTo (index : Nat) (tunnel : Tunnel) : Prop :=
  ∀ place other exit, place ≠ index → tunnel.relays[place]? = some other →
    other.phase.decided? = some exit → exit = .closed

variable {allowed : Operation → Prop} {tunnel first last : Tunnel} {index place window start : Nat}
  {relay after : Relay} {context : Context} {script : List Event} {payload : List UInt8}

theorem LeftTo.of_replace (hp : tunnel.relays[place]? = some relay)
    (step : relay.Step tunnel.now tunnel.context after context)
    (h : (tunnel.replace place relay after context).LeftTo index) : tunnel.LeftTo index := by
  intro spot other exit ne ho decided
  by_cases same : place = spot
  · subst same
    obtain rfl : relay = other := Option.some.inj (hp.symm.trans ho)
    exact h place after exit ne (getElem?_replace_self hp) (step.decided?_eq decided)
  · exact h spot other exit ne ((getElem?_replace_ne same).trans ho) decided

/-- One relay conveys a payload, and what the others know of the tunnel is true. -/
structure Conveying (index window start : Nat) (script : List Event) (payload : List UInt8)
    (tunnel : Tunnel) : Prop where
  begun : start ≤ tunnel.now
  attested : ∀ relay ∈ tunnel.relays, relay.phase.Attests tunnel.context.closure
  relay : ∃ relay, tunnel.relays[index]? = some relay ∧ relay.Suits window ∧
    relay.Conveys script payload start tunnel.now tunnel.context.closing

theorem Conveying.closing_eq (h : tunnel.Conveying index window start script payload)
    (left : tunnel.LeftTo index) (ne : place ≠ index) (hp : tunnel.relays[place]? = some relay)
    (step : relay.Step tunnel.now tunnel.context after context)
    (opened : tunnel.context.closing = false) : context.closing = false := by
  rcases step.closure_cases with same | ⟨exit, -, -, rfl⟩ | ⟨exit, leaving, -, -⟩
  · exact (congrArg Closure.closing same).trans opened
  · exact opened
  · obtain rfl : exit = .closed := left place relay exit ne hp (by rw [leaving]; rfl)
    have attested := h.attested relay (List.mem_of_getElem? hp)
    rw [leaving] at attested
    have closing : tunnel.context.closing = true := attested
    rw [opened] at closing
    cases closing

theorem Conveying.step (h : tunnel.Conveying index window start script payload)
    (paced : ∀ count ≤ payload.length,
      readyAt start (count + 1) script ≤ readyAt start count script + window)
    (left : tunnel.LeftTo index) (hp : tunnel.relays[place]? = some relay)
    (hs : relay.step? tunnel.now tunnel.context = some (after, context)) :
    (tunnel.replace place relay after context).Conveying index window start script payload := by
  have step := Relay.Step.of_step? hs
  obtain ⟨conveyor, hc, suits, conveys⟩ := h.relay
  refine ⟨h.begun, ?_, ?_⟩
  · intro other mem
    rcases List.mem_or_eq_of_mem_set mem with mem | rfl
    · exact (h.attested other mem).mono step.grows
    · exact step.attests (h.attested relay (List.mem_of_getElem? hp))
  · by_cases same : place = index
    · subst same
      obtain rfl : conveyor = relay := Option.some.inj (hc.symm.trans hp)
      exact ⟨after, getElem?_replace_self hp, step.suits suits,
        conveys.step suits h.begun paced hs⟩
    · refine ⟨conveyor, (getElem?_replace_ne same).trans hc, suits, ?_⟩
      exact conveys.congr fun opened _ => h.closing_eq left same hp step opened

theorem Conveying.perform {operation : Operation}
    (h : tunnel.Conveying index window start script payload) (open_ : operation ≠ .shutdown) :
    (tunnel.perform operation).Conveying index window start script payload := by
  obtain ⟨conveyor, hc, suits, conveys⟩ := h.relay
  have grows := operation.grows_effect tunnel.now tunnel.context
  refine ⟨h.begun, fun relay mem => (h.attested relay mem).mono grows, conveyor, hc, suits, ?_⟩
  refine conveys.congr fun opened _ => ?_
  exact (congrArg Option.isSome (Operation.closedAt_effect open_ _ _)).trans opened

theorem Conveying.reaches (h : first.Conveying index window start script payload)
    (paced : ∀ count ≤ payload.length,
      readyAt start (count + 1) script ≤ readyAt start count script + window)
    (calls : ∀ operation, allowed operation → operation ≠ .shutdown)
    (moves : Reaches allowed first last) (left : last.LeftTo index) :
    last.Conveying index window start script payload := by
  induction moves with
  | refl => exact h
  | tail _ move ih =>
    cases move with
    | step hp hs =>
      have before := left.of_replace hp (.of_step? hs)
      exact (ih before).step paced before hp hs
    | elapse goes idle =>
      obtain ⟨begun, attested, conveyor, hc, suits, conveys⟩ := ih left
      exact ⟨Nat.le_trans begun goes, attested, conveyor, hc, suits,
        conveys.elapse goes (idle conveyor (List.mem_of_getElem? hc))⟩
    | call may => exact (ih left).perform (calls _ may)

end Tunnel

end TunnelServer
