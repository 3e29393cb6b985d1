import TunnelServer.Proofs.Tunnel.Ledger

/-!
# What an idle tunnel shows

A relay that gives up because nothing moves has done nothing itself for as long as a read may take.
Of the other direction it only knows when that last completed a chunk. So the other one completed no
chunk within that time either, but it may have written a part of one.
-/

namespace TunnelServer

namespace Context

variable {context : Context} {now time window : Nat} {direction : Direction}

theorem le_of_wroteWithin_eq (h : context.wroteWithin now direction window = false)
    (hs : context.lastWrite direction = context.stamp time) (later : time ≤ now)
    (fits : now - context.start + 1 < UInt64.size) (small : window < UInt64.size) :
    time + window ≤ now := by
  have fits' : time - context.start + 1 < UInt64.size := by omega
  have size : UInt64.size = 18446744073709551616 := rfl
  have noted : context.lastWrite direction ≠ 0 := by
    intro none
    have zero := congrArg UInt64.toNat (hs.symm.trans none)
    rw [toNat_stamp fits'] at zero
    cases zero
  have far : ¬ elapsed (context.stamp now) (context.lastWrite direction) < UInt64.ofNat window := by
    intro near
    simp [wroteWithin, noted, near] at h
  rw [UInt64.lt_iff_toNat_lt, toNat_elapsed, hs, toNat_stamp fits, toNat_stamp fits',
    UInt64.toNat_ofNat', Nat.mod_eq_of_lt (by omega)] at far
  omega

end Context

namespace Relay

/-- The relay gives up because nothing moves, or has done so. -/
def GivesUp (relay : Relay) : Prop :=
  relay.phase = .judging .silence ∨ relay.phase.decided? = some .idle

/-- A relay that found nothing moving at a moment goes on to its end at this moment. -/
inductive LostHope (moment now : Nat) (context : Context) (relay : Relay) : Prop where
  | judging : relay.phase = .judging .silence → now = moment → LostHope moment now context relay
  | breaking : relay.phase = .breaking .idle → now = moment →
      (∀ time ∈ context.closedAt, time = moment) → LostHope moment now context relay
  | leaving : relay.phase = .leaving .idle → now = moment → context.broken = true →
      (∀ time ∈ context.closedAt, time = moment) → LostHope moment now context relay
  | settling : relay.phase = .settling .idle → now = moment → context.broken = true →
      context.closedAt = some moment → LostHope moment now context relay
  | finished : relay.phase = .finished .idle moment → context.closedAt = some moment →
      LostHope moment now context relay

variable {moment now later : Nat} {relay after : Relay} {context shared : Context}

theorem LostHope.eq_or_closedAt (h : relay.LostHope moment now context) :
    now = moment ∨ context.closedAt = some moment := by
  cases h with
  | judging _ same | breaking _ same | leaving _ same | settling _ same => exact .inl same
  | finished _ closed => exact .inr closed

/-- Only a relay whose read took too long, beside one that did not write lately, gives up. -/
theorem Step.givesUp_cases (h : Step now relay context after shared) (gone : after.GivesUp) :
    relay.GivesUp ∨ relay.phase = .overdue ∧ shared = context ∧
      context.wroteWithin now relay.direction.opposite relay.timeout = false ∧
      after = relay.enter (.judging .silence) := by
  cases h with
  | loseHope hp silent => exact .inr ⟨hp, rfl, silent, rfl⟩
  | @judge cause hp =>
    cases cause with
    | silence => exact .inl (.inl hp)
    | readFault | sourceEnded | writeFault =>
      simp [GivesUp, Cause.breaks, Cause.exit, Phase.decided?] at gone
  | markBroken hp | leave hp | spareSink hp | turnToSink hp | sinkClosed hp | sinkFailed hp
  | sinkPending hp | sinkDrained hp | drainFailed hp | abandonSink hp =>
    refine .inl (.inr ?_)
    rw [hp]
    simpa [GivesUp, Phase.decided?] using gone
  | record =>
    simp [GivesUp, Phase.decided?] at gone
  | _ => simp [GivesUp, Phase.decided?] at gone

theorem LostHope.step (h : relay.LostHope moment now context)
    (step : relay.step? now context = some (after, shared)) (gone : after.GivesUp) :
    after.LostHope moment now shared := by
  cases h with
  | judging hp same =>
    simp only [step?, hp] at step
    split at step <;> cases step
    · simp [GivesUp, Phase.decided?] at gone
    · rename_i opened
      exact .breaking rfl same fun time closed => absurd (Context.closing_of_mem closed) opened
  | breaking hp same closed =>
    simp only [step?, hp] at step
    cases step
    exact .leaving rfl same rfl closed
  | leaving hp same broken closed =>
    simp only [step?, hp] at step
    cases step
    have closes : (context.shutdown now).closedAt = some moment := by
      rcases (context.advances_shutdown now).closedAt with kept | ⟨-, now_closed⟩
      · obtain ⟨time, ht⟩ := Option.isSome_iff_exists.mp (context.closing_shutdown now)
        rw [ht, closed time (kept.symm.trans ht)]
      · rw [now_closed, same]
    exact .settling rfl same ((context.broken_shutdown now).trans broken) closes
  | settling hp same broken closed =>
    simp only [step?, hp, broken, if_true] at step
    cases step
    exact .finished (same ▸ rfl) closed
  | finished hp => simp [step?, hp] at step

theorem LostHope.advance (h : relay.LostHope moment now context)
    (rely : context.Advances now shared) : relay.LostHope moment now shared := by
  have still (closed : context.closedAt = some moment) : shared.closedAt = some moment := by
    rcases rely.closedAt with same | ⟨opened, -⟩
    · exact same.trans closed
    · rw [closed] at opened
      cases opened
  have within (same : now = moment) (closed : ∀ time ∈ context.closedAt, time = moment) (time : Nat)
      (ht : time ∈ shared.closedAt) : time = moment := by
    rcases rely.closedAt with kept | ⟨-, now_closed⟩
    · exact closed time (kept ▸ ht)
    · rw [now_closed] at ht
      exact (Option.some.inj ht).symm.trans same
  cases h with
  | judging hp same => exact .judging hp same
  | breaking hp same closed => exact .breaking hp same (within same closed)
  | leaving hp same broken closed =>
    exact .leaving hp same (rely.grows.broken broken) (within same closed)
  | settling hp same broken closed =>
    exact .settling hp same (rely.grows.broken broken) (still closed)
  | finished hp closed => exact .finished hp (still closed)

theorem LostHope.elapse (h : relay.LostHope moment now context)
    (idle : relay.Idles now context later) : relay.LostHope moment later context := by
  have waits := idle.1
  cases h with
  | finished hp closed => exact .finished hp closed
  | judging hp =>
    simp only [step?, hp] at waits
    split at waits <;> cases waits
  | breaking hp | leaving hp | settling hp => simp [step?, hp] at waits

theorem decided?_of_engaged {phase : Phase} (h : phase.Engaged) : phase.decided? = none := by
  cases phase <;> first | rfl | exact h.elim

theorem GivesUp.same (h : relay.GivesUp) (step : Step now relay context after shared) :
    after.dealings = relay.dealings ∧ after.completed = relay.completed := by
  have idle : ¬ relay.phase.Engaged ∧ relay.phase ≠ .recording := by
    rcases h with hp | hp
    · rw [hp]
      exact ⟨id, nofun⟩
    · constructor
      · intro engaged
        rw [decided?_of_engaged engaged] at hp
        cases hp
      · intro recording
        rw [recording] at hp
        cases hp
  refine ⟨step.dealings_eq idle.1, ?_⟩
  rcases step.writes with ⟨kept, -⟩ | ⟨recording, -⟩
  · exact kept
  · exact absurd recording idle.2

/-- What a relay did from one state to a later one, it did at this moment. -/
structure Since (moment : Nat) (before after : Relay) : Prop where
  writes : ∃ late, after.sink.writes = late ++ before.sink.writes ∧
    ∀ written ∈ late, written.time = moment
  completed : ∃ late, after.completed = late ++ before.completed ∧ ∀ time ∈ late, time = moment
  chunks : before.source.chunks <:+ after.source.chunks

theorem Since.refl (moment : Nat) (relay : Relay) : relay.Since moment relay :=
  ⟨⟨[], rfl, nofun⟩, ⟨[], rfl, nofun⟩, List.suffix_refl _⟩

theorem Since.trans {middle : Relay} (h : relay.Since moment middle)
    (h' : middle.Since moment after) : relay.Since moment after := by
  obtain ⟨late, writes, then_⟩ := h.writes
  obtain ⟨late', writes', then'⟩ := h'.writes
  obtain ⟨done, completed, when⟩ := h.completed
  obtain ⟨done', completed', when'⟩ := h'.completed
  refine ⟨⟨late' ++ late, ?_, ?_⟩, ⟨done' ++ done, ?_, ?_⟩, h.chunks.trans h'.chunks⟩
  · rw [writes', writes, List.append_assoc]
  · intro written mem
    exact (List.mem_append.mp mem).elim (then' written) (then_ written)
  · rw [completed', completed, List.append_assoc]
  · intro time mem
    exact (List.mem_append.mp mem).elim (when' time) (when time)

theorem Step.since (h : Step now relay context after shared)
    (here : ¬ relay.phase.IsOver → now = moment) : relay.Since moment after := by
  cases h with
  | take hp =>
    exact ⟨⟨[], rfl, nofun⟩, ⟨[], rfl, nofun⟩, List.suffix_cons ..⟩
  | writePart hp | writeRest hp =>
    obtain rfl : now = moment := here (by rw [hp]; exact id)
    exact ⟨⟨[_], rfl, by simp⟩, ⟨[], rfl, nofun⟩, List.suffix_refl _⟩
  | record hp =>
    obtain rfl : now = moment := here (by rw [hp]; exact id)
    refine ⟨⟨[], by simp, nofun⟩, ⟨[now], by simp, by simp⟩, ?_⟩
    simp only [source_complete, List.suffix_refl]
  | _ => exact ⟨⟨[], rfl, nofun⟩, ⟨[], rfl, nofun⟩, List.suffix_refl _⟩

end Relay

namespace Tunnel

variable {allowed : Operation → Prop} {tunnel first last : Tunnel} {index place : Nat}
  {relay other after : Relay} {context : Context}

theorem getElem?_replace_cases (h : tunnel.relays[index]? = some relay)
    (ho : (tunnel.replace index relay after context).relays[place]? = some other) :
    index = place ∧ after = other ∨ index ≠ place ∧ tunnel.relays[place]? = some other := by
  by_cases same : index = place
  · subst same
    exact .inl ⟨rfl, Option.some.inj ((getElem?_replace_self h).symm.trans ho)⟩
  · exact .inr ⟨same, (getElem?_replace_ne same).symm.trans ho⟩

/-- The relays have directions of their own, and the time stamp of a direction is from the last chunk
that its relay completed. -/
structure Noted (tunnel : Tunnel) : Prop where
  apart : ∀ (index place : Nat) (relay other : Relay), tunnel.relays[index]? = some relay →
    tunnel.relays[place]? = some other → relay.direction = other.direction → index = place
  noted : ∀ (index : Nat) (relay : Relay), tunnel.relays[index]? = some relay →
    ∀ time ∈ relay.completed.head?, tunnel.context.lastWrite relay.direction =
      tunnel.context.stamp time

theorem Noted.step (h : tunnel.Noted) (hr : tunnel.relays[index]? = some relay)
    (step : relay.Step tunnel.now tunnel.context after context) :
    (tunnel.replace index relay after context).Noted := by
  have before (place : Nat) (other : Relay)
      (ho : (tunnel.replace index relay after context).relays[place]? = some other) :
      ∃ known, tunnel.relays[place]? = some known ∧ known.direction = other.direction := by
    rcases getElem?_replace_cases hr ho with ⟨rfl, rfl⟩ | ⟨-, ho⟩
    · exact ⟨relay, hr, step.setup_eq.1.symm⟩
    · exact ⟨other, ho, rfl⟩
  refine ⟨fun place place' other other' ho ho' same => ?_, fun place other ho time newest => ?_⟩
  · obtain ⟨known, hk, direction⟩ := before place other ho
    obtain ⟨known', hk', direction'⟩ := before place' other' ho'
    exact h.apart place place' known known' hk hk' (direction.trans (same.trans direction'.symm))
  · show context.lastWrite other.direction = context.stamp time
    rw [Context.stamp_congr step.start_eq]
    rcases getElem?_replace_cases hr ho with ⟨rfl, rfl⟩ | ⟨ne, ho⟩
    · rw [step.setup_eq.1]
      rcases step.writes with ⟨kept, same⟩ | ⟨-, added, noted⟩
      · rw [same]
        exact h.noted index relay hr time (kept ▸ newest)
      · obtain rfl : tunnel.now = time := by simpa [added] using newest
        rw [noted, Context.lastWrite_recordWrite, if_pos rfl]
    · have known := h.noted place other ho time newest
      rcases step.writes with ⟨-, same⟩ | ⟨-, -, noted⟩
      · rw [same, known]
      · have other_direction : other.direction ≠ relay.direction := by
          intro same
          exact ne (h.apart place index other relay ho hr same).symm
        rw [noted, Context.lastWrite_recordWrite, if_neg other_direction, known]

theorem Noted.reaches (h : first.Noted) (moves : Reaches allowed first last)
    (quiet : ∀ operation direction, allowed operation → operation ≠ .recordWrite direction) :
    last.Noted := by
  induction moves with
  | refl => exact h
  | tail _ move ih =>
    cases move with
    | step hr step => exact ih.step hr (.of_step? step)
    | elapse => exact ⟨ih.apart, ih.noted⟩
    | @call operation may =>
      refine ⟨ih.apart, fun index relay hr time newest => ?_⟩
      show (operation.effect _ _).lastWrite _ = (operation.effect _ _).stamp time
      rw [Operation.lastWrite_effect fun direction => quiet operation direction may,
        Context.stamp_congr Operation.start_effect]
      exact ih.noted index relay hr time newest

/-- How a relay came to give up beside another one: `before` and `beside` are the two when it asked
about the other direction, `relay` and `other` what became of them by now. -/
structure GaveUp (allowed : Operation → Prop) (first middle : Tunnel) (index place now : Nat)
    (context : Context) (relay other before beside : Relay) : Prop where
  reached : Reaches allowed first middle
  asked : middle.relays[index]? = some before
  overdue : before.phase = .overdue
  silent : middle.context.wroteWithin middle.now before.direction.opposite before.timeout = false
  same : relay.dealings = before.dealings ∧ relay.completed = before.completed
  lost : relay.LostHope middle.now now context
  stood : middle.relays[place]? = some beside
  since : beside.Since middle.now other

variable {middle : Tunnel} {now later : Nat} {shared : Context} {before beside next : Relay}

theorem GaveUp.advance (h : GaveUp allowed first middle index place now context relay other before
    beside) (rely : context.Advances now shared) :
    GaveUp allowed first middle index place now shared relay other before beside :=
  { h with lost := h.lost.advance rely }

theorem GaveUp.elapse (h : GaveUp allowed first middle index place now context relay other before
    beside) (idle : relay.Idles now context later) :
    GaveUp allowed first middle index place later context relay other before beside :=
  { h with lost := h.lost.elapse idle }

theorem GaveUp.step (h : GaveUp allowed first middle index place now context relay other before
    beside) (gives : relay.GivesUp) (step : relay.step? now context = some (next, shared))
    (gone : next.GivesUp) :
    GaveUp allowed first middle index place now shared next other before beside := by
  obtain ⟨dealings, completed⟩ := gives.same (.of_step? step)
  exact { h with
    same := ⟨dealings.trans h.same.1, completed.trans h.same.2⟩
    lost := h.lost.step step gone }

theorem GaveUp.step_beside (h : GaveUp allowed first middle index place now context relay other
    before beside) (prompt : other.Prompt first.now now context) (begun : first.now ≤ middle.now)
    (step : other.Step now context next shared) :
    GaveUp allowed first middle index place now shared relay next before beside := by
  refine { h with lost := h.lost.advance step.advances, since := h.since.trans (step.since ?_) }
  intro active
  rcases h.lost.eq_or_closedAt with same | closed
  · exact same
  · cases prompt.hurries _ closed with
    | atOnce same => rwa [Nat.max_eq_left begun] at same
    | draining hp | finished hp =>
      rw [hp] at active
      exact absurd trivial active

/-- A relay that gives up has asked about the other one at the same moment. -/
theorem Reaches.gaveUp {direction direction' : Direction}
    {window window' bufferSize bufferSize' : Nat} {source source' : Source} {sink sink' : Sink}
    (started : first.relays[index]? =
      some (.begin direction window bufferSize source sink first.now))
    (started' : first.relays[place]? =
      some (.begin direction' window' bufferSize' source' sink' first.now))
    (apart : index ≠ place) (past : ∀ moment ∈ first.context.closedAt, moment ≤ first.now)
    (h : Reaches allowed first last) (hl : last.relays[index]? = some relay)
    (gone : relay.GivesUp) :
    ∃ middle before beside other, last.relays[place]? = some other ∧
      GaveUp allowed first middle index place last.now last.context relay other before beside := by
  have prompt {last : Tunnel} (h : Reaches allowed first last) :
      ∃ other, last.relays[place]? = some other ∧
        other.Prompt first.now last.now last.context := by
    obtain ⟨fresh, hf, prompt, -⟩ := prompt_begin started' past
    exact h.prompt ⟨fresh, hf, prompt⟩
  induction h generalizing relay with
  | refl =>
    obtain rfl := Option.some.inj (started.symm.trans hl)
    simp [Relay.GivesUp, Relay.begin, Phase.decided?] at gone
  | @tail tunnel _ reached move ih =>
    cases move with
    | elapse _ idle =>
      obtain ⟨middle, before, beside, other, ho, gave⟩ := ih hl gone
      exact ⟨middle, before, beside, other, ho,
        gave.elapse (idle relay (List.mem_of_getElem? hl))⟩
    | @call operation =>
      obtain ⟨middle, before, beside, other, ho, gave⟩ := ih hl gone
      exact ⟨middle, before, beside, other, ho, gave.advance (operation.advances_effect _ _)⟩
    | @step spot known after shared hk step =>
      have made := Relay.Step.of_step? step
      rcases getElem?_replace_cases hk hl with ⟨rfl, rfl⟩ | ⟨ne, hl⟩
      · obtain ⟨other, ho, -⟩ := prompt reached
        have stays : (tunnel.replace spot known after shared).relays[place]? = some other :=
          (getElem?_replace_ne apart).trans ho
        -- it had given up before this step, or asks about the other one with it
        rcases made.givesUp_cases gone with gives | ⟨overdue, -, silent, rfl⟩
        · obtain ⟨middle, before, beside, other', ho', gave⟩ := ih hk gives
          obtain rfl : other = other' := Option.some.inj (ho.symm.trans ho')
          exact ⟨middle, before, beside, other, stays, gave.step gives step gone⟩
        · exact ⟨tunnel, known, other, other, stays,
            { reached, asked := hk, overdue, silent, same := ⟨rfl, rfl⟩, lost := .judging rfl rfl
              stood := ho, since := .refl _ _ }⟩
      · obtain ⟨middle, before, beside, other, ho, gave⟩ := ih hl gone
        by_cases own : spot = place
        · subst own
          obtain rfl : known = other := Option.some.inj (hk.symm.trans ho)
          obtain ⟨known', hk', promptly⟩ := prompt reached
          obtain rfl : known = known' := Option.some.inj (hk.symm.trans hk')
          obtain ⟨_, -, early⟩ := prompt gave.reached
          exact ⟨middle, before, beside, after, getElem?_replace_self hk,
            gave.step_beside promptly early.begun made⟩
        · exact ⟨middle, before, beside, other, (getElem?_replace_ne own).trans ho,
            gave.advance made.advances⟩

/-- What a relay had done when the other one gave up at a time. What it had completed by then, it had
written and completed at least the window before. What it wrote since is a part of its next chunk. If
it did more, it did that at this very time. -/
structure Unnoticed (window time : Nat) (done : List Nat) (recent settled : List Written)
    (relay : Relay) : Prop where
  completed : ∃ late, relay.completed = late ++ done ∧ ∀ moment ∈ late, moment = time
  writes : ∃ late, relay.sink.writes = late ++ (recent ++ settled) ∧
    ∀ written ∈ late, written.time = time
  done_le : ∀ moment ∈ done, moment + window ≤ time
  settled_le : ∀ written ∈ settled, written.time + window ≤ time
  part : recent = [] ∨ ∃ chunk, relay.source.chunks.reverse[done.length]? = some chunk ∧
    Written.join recent <+: chunk.bytes

theorem Noted.completed_le {window : Nat} (h : middle.Noted) (place_eq : middle.relays[place]? =
    some beside) (ledger : beside.Ledger) (past : ∀ time ∈ beside.completed, time ≤ middle.now)
    (silent : middle.context.wroteWithin middle.now beside.direction window = false)
    (fits : middle.now - middle.context.start + 1 < UInt64.size) (small : window < UInt64.size) :
    ∀ time ∈ beside.completed, time + window ≤ middle.now := by
  have noted := h.noted place beside place_eq
  have sorted := ledger.sorted
  intro time mem
  cases hc : beside.completed with
  | nil =>
    rw [hc] at mem
    cases mem
  | cons newest older =>
    rw [hc] at noted sorted mem past
    have far : newest + window ≤ middle.now :=
      Context.le_of_wroteWithin_eq silent (noted newest rfl) (past newest List.mem_cons_self) fits small
    rcases List.mem_cons.mp mem with rfl | mem
    · exact far
    · have early : time ≤ newest := (List.pairwise_cons.mp sorted).1 time mem
      omega

theorem noted_pair (pair : tunnel.relays.length = 2) (hi : tunnel.relays[index]? = some relay)
    (hp : tunnel.relays[place]? = some other) (ne : relay.direction ≠ other.direction)
    (idle : relay.completed = []) (idle' : other.completed = []) : tunnel.Noted := by
  have apart : index ≠ place := by
    rintro rfl
    exact ne (congrArg Relay.direction (Option.some.inj (hi.symm.trans hp)))
  have only (spot : Nat) (known : Relay) (hk : tunnel.relays[spot]? = some known) :
      spot = index ∧ known = relay ∨ spot = place ∧ known = other := by
    have bound := (List.getElem?_eq_some_iff.mp hk).1
    have bound' := (List.getElem?_eq_some_iff.mp hi).1
    have bound'' := (List.getElem?_eq_some_iff.mp hp).1
    have cases : spot = index ∨ spot = place := by omega
    rcases cases with rfl | rfl
    · exact .inl ⟨rfl, Option.some.inj (hk.symm.trans hi)⟩
    · exact .inr ⟨rfl, Option.some.inj (hk.symm.trans hp)⟩
  refine ⟨fun spot spot' known known' hk hk' same => ?_, fun spot known hk time newest => ?_⟩
  · rcases only spot known hk with ⟨rfl, rfl⟩ | ⟨rfl, rfl⟩ <;>
      rcases only spot' known' hk' with ⟨rfl, rfl⟩ | ⟨rfl, rfl⟩
    · rfl
    · exact absurd same ne
    · exact absurd same.symm ne
    · rfl
  · have none : known.completed = [] := by
      rcases only spot known hk with ⟨-, rfl⟩ | ⟨-, rfl⟩
      · exact idle
      · exact idle'
    rw [none] at newest
    cases newest

theorem getElem?_reverse_of_suffix {chunks later : List Chunk} {chunk : Chunk} {older : List Chunk}
    (h : chunks = chunk :: older) (grown : chunks <:+ later) :
    later.reverse[older.length]? = some chunk := by
  obtain ⟨added, rfl⟩ := grown
  subst h
  have bound : older.reverse.length = older.length := List.length_reverse
  rw [List.reverse_append, List.reverse_cons, List.append_assoc,
    List.getElem?_append_right (Nat.le_of_eq bound), bound, Nat.sub_self]
  rfl

/-- What the ledger of the other relay says of it when a relay gave up, in terms of what became of it. -/
theorem GaveUp.unnoticed {window window' : Nat} (h : GaveUp allowed first middle index place now
    context relay other before beside) (noted : middle.Noted)
    (rests : beside.Rests window' middle.now) (ledger : beside.Ledger)
    (silent : middle.context.wroteWithin middle.now beside.direction window = false)
    (fits : middle.now - middle.context.start + 1 < UInt64.size) (small : window < UInt64.size) :
    ∃ done recent settled, Unnoticed window middle.now done recent settled other := by
  have past (time : Nat) (done : time ∈ beside.completed) : time ≤ middle.now :=
    rests.past time (.inr (.inr done))
  have done_le := noted.completed_le h.stood ledger past silent fits small
  obtain ⟨recent, settled, split, old, part⟩ := ledger.balance
  refine ⟨beside.completed, recent, settled, h.since.completed, split ▸ h.since.writes, done_le,
    ?_, ?_⟩
  · intro written mem
    obtain ⟨time, done, early⟩ := old written mem
    have le := done_le time done
    omega
  · rcases part.level_or with ⟨none, -⟩ | ⟨rest, time, older, newest, level⟩
    · exact .inl none
    · refine .inr ⟨⟨time, Written.join recent ++ rest⟩, ?_, List.prefix_append _ rest⟩
      rw [← level]
      exact getElem?_reverse_of_suffix newest h.since.chunks

theorem Reaches.start_eq (h : Reaches allowed first last) :
    last.context.start = first.context.start := by
  induction h with
  | refl => rfl
  | tail _ move ih =>
    rw [← ih]
    cases move with
    | step _ step => exact (Relay.Step.of_step? step).start_eq
    | elapse => rfl
    | call => exact start_perform _ _

theorem Reaches.direction_eq {start : Relay} (h : Reaches allowed first last)
    (hf : first.relays[index]? = some start) (hl : last.relays[index]? = some relay) :
    relay.direction = start.direction := by
  obtain ⟨found, hr, same⟩ := h.exists_relay (P := fun known => known.direction = start.direction)
    (fun same step => step.setup_eq.1.trans same) ⟨start, hf, rfl⟩
  obtain rfl : relay = found := Option.some.inj (hl.symm.trans hr)
  exact same

/-- When a relay of a pair ends because nothing moved, it has done nothing within the time that a read
may take, and the other one completed nothing within that time, but may have written a part of one
chunk. Time stamps must not have overflowed. -/
theorem idle_verdict {direction : Direction} {label : String} {debug : Bool}
    {window window' bufferSize bufferSize' start time : Nat} {script script' : List Event}
    {plan plan' : SinkPlan} (hc : first.context = .fresh label debug start)
    (pair : first.relays.length = 2)
    (hi : first.relays[index]? =
      some (.begin direction window bufferSize (.ofScript script) (.ofPlan plan) first.now))
    (hp : first.relays[place]? = some
      (.begin direction.opposite window' bufferSize' (.ofScript script') (.ofPlan plan') first.now))
    (quiet : ∀ operation direction, allowed operation → operation ≠ .recordWrite direction)
    (h : Reaches allowed first last) (fits : last.now - start + 1 < UInt64.size)
    (small : window < UInt64.size) (hl : last.relays[index]? = some relay)
    (ho : last.relays[place]? = some other) (he : relay.exit? = some (.idle, time)) :
    (∀ moment, relay.Active moment → moment + window ≤ time) ∧
      ∃ done recent settled, Unnoticed window time done recent settled other := by
  have past : ∀ moment ∈ first.context.closedAt, moment ≤ first.now := by
    rw [hc]
    exact nofun
  have noted : first.Noted := noted_pair pair hi hp direction.opposite_ne.symm rfl rfl
  have apart : index ≠ place := by
    rintro rfl
    exact direction.opposite_ne (congrArg Relay.direction (Option.some.inj (hp.symm.trans hi)))
  have finished := Relay.exit?_eq_some_iff.mp he
  have gone : relay.GivesUp := .inr (by rw [finished]; rfl)
  obtain ⟨middle, before, beside, other', ho', gave⟩ := h.gaveUp hi hp apart past hl gone
  obtain rfl : other = other' := Option.some.inj (ho.symm.trans ho')
  obtain ⟨rfl, closed⟩ : middle.now = time ∧ last.context.closedAt = some middle.now := by
    cases gave.lost with
    | finished hq closed =>
      rw [finished] at hq
      cases hq
      exact ⟨rfl, closed⟩
    | judging hq | breaking hq | leaving hq | settling hq =>
      rw [finished] at hq
      cases hq
  -- both ledgers as they were when the relay gave up
  obtain ⟨before', hb', rests, -⟩ := gave.reached.ledger
    ⟨_, hi, Relay.rests_begin, Relay.ledger_begin⟩
  obtain rfl : before = before' := Option.some.inj (gave.asked.symm.trans hb')
  obtain ⟨beside', hs', rests', ledger⟩ := gave.reached.ledger
    ⟨_, hp, Relay.rests_begin, Relay.ledger_begin⟩
  obtain rfl : beside = beside' := Option.some.inj (gave.stood.symm.trans hs')
  constructor
  · intro moment active
    have active' : before.Active moment := by
      have source : relay.source = before.source := congrArg Dealings.source gave.same.1
      have writes : relay.sink.writes = before.sink.writes := congrArg Dealings.writes gave.same.1
      rwa [Relay.Active, source, writes, gave.same.2] at active
    exact rests.overdue gave.overdue moment active'
  · have forth := gave.reached.direction_eq hi gave.asked
    have back := gave.reached.direction_eq hp gave.stood
    have silent : middle.context.wroteWithin middle.now beside.direction window = false := by
      have asked := gave.silent
      rw [rests.timeout_eq, forth] at asked
      rwa [back]
    have early : middle.now ≤ last.now := by
      obtain ⟨fresh, hf, prompt, -⟩ := prompt_begin hi past
      obtain ⟨_, -, known⟩ := h.prompt ⟨fresh, hf, prompt⟩
      exact known.past middle.now closed
    have began : middle.context.start = start := by
      rw [gave.reached.start_eq, hc]
      rfl
    exact gave.unnoticed (noted.reaches gave.reached quiet) rests' ledger silent
      (by rw [began]; omega) small

/-- A destination that sends two chunks, of which the client takes one and a half. -/
def halfway : Tunnel :=
  setUp ⟨"halfway", false, 4, 2⟩ 0
    ⟨.ofScript [], .ofPlan { SinkPlan.unrestricted with stalls := [⟨2, none⟩] }⟩
    ⟨.ofScript [⟨0, .data [9]⟩, ⟨3, .data [1, 2]⟩], .ofPlan .unrestricted⟩

theorem idle_verdict_halfway :
    Reaches (fun _ => False) halfway (halfway.runUntil 100) ∧
      ∃ relay other, (halfway.runUntil 100).relays = [relay, other] ∧
        relay.exit? = some (.idle, 4) ∧ (∀ moment, relay.Active moment → moment + 4 ≤ 4) ∧
        ∃ done recent settled, Unnoticed 4 4 done recent settled other := by
  have turns : TakesTurns (fun _ => False) halfway (halfway.runUntil 100) :=
    takesTurns_advance _ _ halfway
  obtain ⟨relay, other, lasts, -, -⟩ := turns.exists_pair rfl
  have exited : relay.exit? = some (.idle, 4) := by
    have exits : (halfway.runUntil 100).relays.map Relay.exit? =
        [some (.idle, 4), some (.closed, 4)] := by decide
    rw [lasts] at exits
    exact (List.cons.inj exits).1
  have here : (halfway.runUntil 100).relays[0]? = some relay := by
    rw [lasts]
    rfl
  have there : (halfway.runUntil 100).relays[1]? = some other := by
    rw [lasts]
    rfl
  have verdict := idle_verdict rfl rfl rfl rfl (fun _ _ never => never.elim) turns.reaches (by decide)
    (by decide) here there exited
  exact ⟨turns.reaches, relay, other, lasts, exited, verdict⟩

/-- Here a relay whose reads may take 4 milliseconds gives up at 4, although the sink of the other
direction accepted a byte at 3. -/
theorem idle_despite_write :
    TakesTurns (fun _ => False) halfway (halfway.runUntil 100) ∧
      (halfway.runUntil 100).relays.map Relay.exit? = [some (.idle, 4), some (.closed, 4)] ∧
      (halfway.runUntil 100).relays.map Relay.timeout = [4, 4] ∧
      (halfway.runUntil 100).relays.map (·.sink.writes) = [[], [⟨3, [1]⟩, ⟨0, [9]⟩]] :=
  ⟨takesTurns_advance _ _ halfway, by decide, by decide, by decide⟩

end Tunnel

end TunnelServer
