import TunnelServer.Proofs.Tunnel.Progress

/-!
# Closing is prompt

Once a tunnel is closing, a relay that looks sees it, and it looks before every read and every write.
So it leaves at once, whatever its streams do; only its sink can keep it, and not for longer than the
time for closing. In a tunnel that was broken by then it does not even ask its sink.
-/

namespace TunnelServer

/-- What a step or a call at some time may do to the start of closing. -/
structure Context.Advances (now : Nat) (before after : Context) : Prop where
  grows : before.closure.Grows after.closure
  closedAt : after.closedAt = before.closedAt ∨
    before.closedAt = none ∧ after.closedAt = some now

theorem Context.closing_of_mem {context : Context} {moment : Nat}
    (h : moment ∈ context.closedAt) : context.closing = true := by
  rw [closing, Option.mem_def.mp h]
  rfl

theorem Context.advances_shutdown (now : Nat) (context : Context) :
    context.Advances now (context.shutdown now) := by
  refine ⟨context.grows_shutdown now, ?_⟩
  unfold shutdown closing
  split
  · exact .inl rfl
  · rename_i opened
    exact .inr ⟨Option.not_isSome_iff_eq_none.mp opened, rfl⟩

theorem Operation.advances_effect (operation : Operation) (now : Nat) (context : Context) :
    context.Advances now (operation.effect now context) := by
  by_cases h : operation = .shutdown
  · subst h
    exact context.advances_shutdown now
  · exact ⟨operation.grows_effect now context, .inl (Operation.closedAt_effect h now context)⟩

/-- The relay waits for its sink to be shut down, or is finished. -/
def Phase.IsOver : Phase → Prop
  | .draining .. | .finished .. => True
  | _ => False

/-- The relay has seen an open tunnel and is about to read from its source or to write to its
sink. -/
def Phase.Engaged : Phase → Prop
  | .polling _ | .offering _ | .flushing => True
  | _ => False

/-- What a relay has had to do with its streams, apart from shutting its sink down. -/
structure Dealings where
  source : Source
  writes : List Written
  writesAsked : Nat
  flushesAsked : Nat

namespace Relay

def dealings (relay : Relay) : Dealings :=
  ⟨relay.source, relay.sink.writes, relay.sink.timesAsked .write, relay.sink.timesAsked .flush⟩

variable {now later moment : Nat} {relay after : Relay} {context shared : Context}

theorem Step.advances (h : Step now relay context after shared) : context.Advances now shared := by
  refine ⟨h.grows, ?_⟩
  cases h with
  | leave => exact (context.advances_shutdown now).closedAt
  | record => exact .inl (by cases relay.direction <;> rfl)
  | _ => exact .inl rfl

theorem Step.over_cases (h : Step now relay context after shared) (active : ¬ relay.phase.IsOver) :
    ¬ after.phase.IsOver ∨ (∃ exit, after.phase = .draining exit (now + Millis.closeLimit)) ∨
      ∃ exit, after.phase = .finished exit now := by
  cases h with
  | spareSink | sinkClosed | sinkFailed => exact .inr (.inr ⟨_, rfl⟩)
  | sinkPending => exact .inr (.inl ⟨_, rfl⟩)
  | sinkDrained hp | drainFailed hp | abandonSink hp =>
    rw [hp] at active
    exact absurd trivial active
  | record =>
    rw [phase_complete]
    exact .inl id
  | judge =>
    left
    show ¬ (ite _ _ _ : Phase).IsOver
    split <;> exact id
  | _ => exact .inl id

/-- A relay of a tunnel that is closing, from the moment at which both it and the closing have
begun. -/
inductive Hurries (moment now : Nat) (relay : Relay) : Prop where
  | atOnce : now = moment → ¬ relay.phase.IsOver → Hurries moment now relay
  | draining {exit : RelayExit} {deadline : Nat} : relay.phase = .draining exit deadline →
      moment ≤ now → now ≤ deadline → deadline ≤ moment + Millis.closeLimit →
      Hurries moment now relay
  | finished {exit : RelayExit} {time : Nat} : relay.phase = .finished exit time →
      moment ≤ time → time ≤ moment + Millis.closeLimit → Hurries moment now relay

theorem Hurries.step (h : relay.Hurries moment now)
    (step : relay.step? now context = some (after, shared)) : after.Hurries moment now := by
  cases h with
  | atOnce same active =>
    subst same
    rcases (Step.of_step? step).over_cases active with active | ⟨exit, hp⟩ | ⟨exit, hp⟩
    · exact .atOnce rfl active
    · exact .draining hp (Nat.le_refl _) (Nat.le_add_right ..) (Nat.le_refl _)
    · exact .finished hp (Nat.le_refl _) (Nat.le_add_right ..)
  | draining hp past ahead most =>
    simp only [step?, hp, Option.map_eq_some_iff, Prod.mk.injEq] at step
    obtain ⟨drained, hd, rfl, rfl⟩ := step
    exact .finished (drain?_cases hd).1 past (Nat.le_trans ahead most)
  | finished hp => simp [step?, hp] at step

/-- In a tunnel that is closing only a relay that is over waits. -/
theorem isOver_of_step? (closing : context.closing = true) (h : relay.step? now context = none) :
    relay.phase.IsOver := by
  rcases waiting_of_step? h with ⟨_, _, hp⟩ | ⟨_, _, hp⟩ | ⟨_, _, hp⟩ | ⟨_, _, hp⟩
  · simp [step?, hp, closing] at h
  · simp [step?, hp, closing] at h
  · rw [hp]
    trivial
  · rw [hp]
    trivial

theorem Hurries.elapse (h : relay.Hurries moment now) (closing : context.closing = true)
    (goes : now ≤ later) (idle : relay.Idles now context later) : relay.Hurries moment later := by
  cases h with
  | atOnce _ active => exact absurd (isOver_of_step? closing idle.1) active
  | draining hp past _ most =>
    exact .draining hp (Nat.le_trans past goes) (idle.le_of_draining hp) most
  | finished hp past most => exact .finished hp past most

theorem Hurries.exit_le {exit : RelayExit} {time : Nat} (h : relay.Hurries moment now)
    (he : relay.exit? = some (exit, time)) : moment ≤ time ∧ time ≤ moment + Millis.closeLimit := by
  have hq := exit?_eq_some_iff.mp he
  cases h with
  | atOnce _ active =>
    rw [hq] at active
    exact absurd trivial active
  | draining hp =>
    rw [hp] at hq
    cases hq
  | finished hp past most =>
    rw [hp] at hq
    cases hq
    exact ⟨past, most⟩

theorem Hurries.isSome_exit? (h : relay.Hurries moment now)
    (late : moment + Millis.closeLimit < now) : relay.exit?.isSome := by
  cases h with
  | atOnce => omega
  | draining => omega
  | finished hp =>
    rw [exit?_eq_some_iff.mpr hp]
    rfl

theorem Step.not_engaged (h : Step now relay context after shared) (closing : context.closing = true)
    (idle : ¬ relay.phase.Engaged) : ¬ after.phase.Engaged := by
  cases h with
  | tryRead _ opened | tryWrite _ opened | tryFlush _ opened =>
    rw [closing] at opened
    cases opened
  | writePart hp =>
    rw [hp] at idle
    exact absurd trivial idle
  | record =>
    rw [phase_complete]
    exact id
  | judge =>
    show ¬ (ite _ _ _ : Phase).Engaged
    split <;> exact id
  | writeRest hp =>
    rw [hp] at idle
    exact absurd trivial idle
  | _ => exact id

theorem not_engaged_of_step? (h : relay.step? now context = none) : ¬ relay.phase.Engaged := by
  rcases waiting_of_step? h with ⟨_, _, hp⟩ | ⟨_, _, hp⟩ | ⟨_, _, hp⟩ | ⟨_, _, hp⟩ <;>
    rw [hp] <;> exact id

theorem Step.dealings_eq (h : Step now relay context after shared)
    (idle : ¬ relay.phase.Engaged) : after.dealings = relay.dealings := by
  cases h with
  | take hp | meetEnd hp | meetFault hp | missDeadline hp | awaitData hp | refused hp | stalled hp
  | ignored hp | writePart hp | writeRest hp | flushFailed hp | flushPending hp | flushed hp =>
    rw [hp] at idle
    exact absurd trivial idle
  | record => simp only [dealings, source_complete, sink_complete]
  | sinkClosed | sinkFailed | sinkPending =>
    simp [dealings, ask, report, Sink.markShutdown, Sink.call, Sink.timesAsked, enter]
  | _ => rfl

/-- A relay that does not ask its sink, and ends at the very moment if it ends. -/
def Abrupt (moment : Nat) (relay : Relay) : Prop :=
  match relay.phase with
  | .closingSink _ | .draining .. => False
  | .finished _ time => time = moment
  | _ => True

theorem Abrupt.step (h : relay.Abrupt moment) (hurries : relay.Hurries moment now)
    (broken : context.broken = true) (step : relay.step? now context = some (after, shared)) :
    after.Abrupt moment := by
  cases Step.of_step? step with
  | spareSink hp =>
    cases hurries with
    | atOnce same => exact same
    | draining hq | finished hq =>
      rw [hp] at hq
      cases hq
  | turnToSink _ whole =>
    rw [broken] at whole
    cases whole
  | sinkClosed hp | sinkFailed hp | sinkPending hp | sinkDrained hp | drainFailed hp
  | abandonSink hp => simp [Abrupt, hp] at h
  | record => simp [Abrupt]
  | @judge cause =>
    simp only [Abrupt, phase_enter]
    cases cause.breaks <;> trivial
  | _ => trivial

theorem Abrupt.exit_eq {exit : RelayExit} {time : Nat} (h : relay.Abrupt moment)
    (he : relay.exit? = some (exit, time)) : time = moment := by
  have hp := exit?_eq_some_iff.mp he
  simpa only [Abrupt, hp] using h

theorem Abrupt.isSome_exit? (h : relay.Abrupt moment) (hurries : relay.Hurries moment now)
    (late : moment < now) : relay.exit?.isSome := by
  cases hurries with
  | atOnce => omega
  | draining hp => simp [Abrupt, hp] at h
  | finished hp =>
    rw [exit?_eq_some_iff.mpr hp]
    rfl

/-- What is known of a relay that began at some time in a tunnel that did not start to close after
that time. -/
structure Prompt (start now : Nat) (context : Context) (relay : Relay) : Prop where
  begun : start ≤ now
  attests : relay.phase.Attests context.closure
  past : ∀ moment ∈ context.closedAt, moment ≤ now
  hurries : ∀ moment ∈ context.closedAt, relay.Hurries (max moment start) now
  /-- Whoever looked before the tunnel was closing acts on that at the same time. -/
  engaged : ∀ moment ∈ context.closedAt, relay.phase.Engaged → now = moment

variable {start : Nat}

theorem not_isOver_of_attests (h : relay.phase.Attests context.closure)
    (opened : context.closedAt = none) : ¬ relay.phase.IsOver := by
  intro ended
  have closing : context.closing = true := by
    cases hp : relay.phase <;> rw [hp] at h ended <;> first | exact h.1 | exact ended.elim
  rw [Context.closing, opened] at closing
  cases closing

theorem Prompt.advance (h : relay.Prompt start now context) (rely : context.Advances now shared) :
    relay.Prompt start now shared := by
  have attests := h.attests.mono rely.grows
  rcases rely.closedAt with same | ⟨opened, closed⟩
  · exact ⟨h.begun, attests, same ▸ h.past, same ▸ h.hurries, same ▸ h.engaged⟩
  · have active := not_isOver_of_attests h.attests opened
    have now_eq {moment : Nat} (hm : moment ∈ shared.closedAt) : now = moment :=
      Option.some.inj (closed.symm.trans hm)
    refine ⟨h.begun, attests, ?_, ?_, fun moment hm _ => now_eq hm⟩
    · intro moment hm
      exact Nat.le_of_eq (now_eq hm).symm
    · intro moment hm
      obtain rfl := now_eq hm
      exact .atOnce (Nat.max_eq_left h.begun).symm active

theorem Prompt.step (h : relay.Prompt start now context)
    (hs : relay.step? now context = some (after, shared)) : after.Prompt start now shared := by
  have step := Step.of_step? hs
  have attests := step.attests h.attests
  rcases step.advances.closedAt with same | ⟨opened, closed⟩
  · refine ⟨h.begun, attests, same ▸ h.past, ?_, ?_⟩
    · intro moment hm
      exact (h.hurries moment (same ▸ hm)).step hs
    · intro moment hm engaged
      rw [same] at hm
      by_cases before : relay.phase.Engaged
      · exact h.engaged moment hm before
      · exact absurd engaged (step.not_engaged (Context.closing_of_mem hm) before)
  · have now_eq {moment : Nat} (hm : moment ∈ shared.closedAt) : now = moment :=
      Option.some.inj (closed.symm.trans hm)
    refine ⟨h.begun, attests, ?_, ?_, fun moment hm _ => now_eq hm⟩
    · intro moment hm
      exact Nat.le_of_eq (now_eq hm).symm
    · intro moment hm
      obtain rfl := now_eq hm
      rw [Nat.max_eq_left h.begun]
      exact (Hurries.atOnce rfl (not_isOver_of_attests h.attests opened)).step hs

theorem Prompt.elapse (h : relay.Prompt start now context) (goes : now ≤ later)
    (idle : relay.Idles now context later) : relay.Prompt start later context := by
  refine ⟨Nat.le_trans h.begun goes, h.attests, ?_, ?_, ?_⟩
  · intro moment hm
    exact Nat.le_trans (h.past moment hm) goes
  · intro moment hm
    exact (h.hurries moment hm).elapse (Context.closing_of_mem hm) goes idle
  · intro moment hm engaged
    have ended := isOver_of_step? (Context.closing_of_mem hm) idle.1
    cases hp : relay.phase <;> rw [hp] at ended engaged <;>
      first | exact ended.elim | exact engaged.elim

theorem abrupt_of_attests (h : relay.phase.Attests context.closure)
    (opened : context.closedAt = none) (moment : Nat) : relay.Abrupt moment := by
  have quiet : context.closure.closing = false := congrArg Option.isSome opened
  cases hp : relay.phase <;> rw [hp] at h <;> simp_all [Abrupt, Phase.Attests]

/-- What is known of a relay in a tunnel that was broken when it started to close. -/
structure Resets (start now : Nat) (context : Context) (relay : Relay) : Prop where
  prompt : relay.Prompt start now context
  broken : context.broken = true
  abrupt : ∀ moment ∈ context.closedAt, relay.Abrupt (max moment start)

theorem Resets.advance (h : relay.Resets start now context) (rely : context.Advances now shared) :
    relay.Resets start now shared := by
  refine ⟨h.prompt.advance rely, rely.grows.broken h.broken, ?_⟩
  rcases rely.closedAt with same | ⟨opened, -⟩
  · exact same ▸ h.abrupt
  · exact fun moment _ => abrupt_of_attests h.prompt.attests opened _

theorem Resets.step (h : relay.Resets start now context)
    (hs : relay.step? now context = some (after, shared)) : after.Resets start now shared := by
  have rely := (Step.of_step? hs).advances
  refine ⟨h.prompt.step hs, rely.grows.broken h.broken, fun moment hm => ?_⟩
  rcases rely.closedAt with same | ⟨opened, closed⟩
  · rw [same] at hm
    exact (h.abrupt moment hm).step (h.prompt.hurries moment hm) h.broken hs
  · obtain rfl : now = moment := Option.some.inj (closed.symm.trans hm)
    rw [Nat.max_eq_left h.prompt.begun]
    have active := not_isOver_of_attests h.prompt.attests opened
    exact (abrupt_of_attests h.prompt.attests opened now).step (.atOnce rfl active) h.broken hs

theorem Resets.elapse (h : relay.Resets start now context) (goes : now ≤ later)
    (idle : relay.Idles now context later) : relay.Resets start later context :=
  ⟨h.prompt.elapse goes idle, h.broken, h.abrupt⟩

/-- A relay that has nothing more to do with its streams. -/
structure Still (dealings : Dealings) (context : Context) (relay : Relay) : Prop where
  closing : context.closing = true
  idle : ¬ relay.phase.Engaged
  same : relay.dealings = dealings

theorem Still.step {dealings : Dealings} (h : relay.Still dealings context)
    (step : Step now relay context after shared) : after.Still dealings shared :=
  ⟨step.grows.closing h.closing, step.not_engaged h.closing h.idle,
    (step.dealings_eq h.idle).trans h.same⟩

end Relay

namespace Tunnel

variable {allowed : Operation → Prop} {first middle last : Tunnel} {index start moment : Nat}
  {relay : Relay}

/-- What holds of one relay and of what it shares, if its steps preserve it, if nothing that others do
to what it shares affects it, and if the clock does not. -/
theorem Reaches.exists_relay_beside (h : Reaches allowed first last)
    {P : Nat → Context → Relay → Prop}
    (own : ∀ {now relay context after shared}, P now context relay →
      relay.step? now context = some (after, shared) → P now shared after)
    (rely : ∀ {now relay context shared}, P now context relay → context.Advances now shared →
      P now shared relay)
    (elapse : ∀ {now later relay context}, P now context relay → now ≤ later →
      relay.Idles now context later → P later context relay)
    (hf : ∃ relay, first.relays[index]? = some relay ∧ P first.now first.context relay) :
    ∃ relay, last.relays[index]? = some relay ∧ P last.now last.context relay := by
  induction h with
  | refl => exact hf
  | tail _ move ih =>
    obtain ⟨relay, hr, hp⟩ := ih
    cases move with
    | elapse goes idle => exact ⟨relay, hr, elapse hp goes (idle relay (List.mem_of_getElem? hr))⟩
    | @call operation => exact ⟨relay, hr, rely hp (operation.advances_effect _ _)⟩
    | @step place before after _ hb hs =>
      by_cases same : place = index
      · subst same
        obtain rfl : before = relay := Option.some.inj (hb.symm.trans hr)
        exact ⟨after, getElem?_replace_self hb, own hp hs⟩
      · exact ⟨relay, (getElem?_replace_ne same).trans hr,
          rely hp (Relay.Step.of_step? hs).advances⟩

theorem Reaches.closedAt_eq (h : Reaches allowed first last)
    (closed : first.context.closedAt = some moment) : last.context.closedAt = some moment := by
  have kept {now : Nat} {context shared : Context} (hc : context.closedAt = some moment)
      (rely : context.Advances now shared) : shared.closedAt = some moment := by
    rcases rely.closedAt with same | ⟨opened, -⟩
    · exact same.trans hc
    · rw [hc] at opened
      cases opened
  induction h with
  | refl => exact closed
  | tail _ move ih =>
    cases move with
    | step _ hs => exact kept ih (Relay.Step.of_step? hs).advances
    | elapse => exact ih
    | @call operation => exact kept ih (operation.advances_effect _ _)

theorem prompt_begin {direction : Direction} {timeout bufferSize : Nat} {source : Source}
    {sink : Sink} (started : first.relays[index]? =
      some (.begin direction timeout bufferSize source sink first.now))
    (past : ∀ moment ∈ first.context.closedAt, moment ≤ first.now) :
    ∃ relay, first.relays[index]? = some relay ∧
      relay.Prompt first.now first.now first.context ∧ ¬ relay.phase.Engaged ∧
      ∀ moment, relay.Abrupt moment := by
  refine ⟨_, started, ⟨Nat.le_refl _, trivial, past, ?_, fun _ _ => False.elim⟩, id,
    fun _ => trivial⟩
  intro moment hm
  exact .atOnce (Nat.max_eq_right (past moment hm)).symm id

theorem Reaches.prompt (h : Reaches allowed first last)
    (hf : ∃ relay, first.relays[index]? = some relay ∧
      relay.Prompt start first.now first.context) :
    ∃ relay, last.relays[index]? = some relay ∧ relay.Prompt start last.now last.context :=
  h.exists_relay_beside (P := Relay.Prompt start) Relay.Prompt.step Relay.Prompt.advance
    Relay.Prompt.elapse hf

theorem Reaches.resets (h : Reaches allowed first last)
    (hf : ∃ relay, first.relays[index]? = some relay ∧
      relay.Resets start first.now first.context) :
    ∃ relay, last.relays[index]? = some relay ∧ relay.Resets start last.now last.context :=
  h.exists_relay_beside (P := Relay.Resets start) Relay.Resets.step Relay.Resets.advance
    Relay.Resets.elapse hf

theorem Reaches.still {dealings : Dealings} (h : Reaches allowed first last)
    (hf : ∃ relay, first.relays[index]? = some relay ∧ relay.Still dealings first.context) :
    ∃ relay, last.relays[index]? = some relay ∧ relay.Still dealings last.context := by
  refine h.exists_relay_beside (P := fun _ context relay => relay.Still dealings context) ?_ ?_ ?_ hf
  · exact fun still step => still.step (.of_step? step)
  · exact fun still rely => ⟨rely.grows.closing still.closing, still.idle, still.same⟩
  · exact fun still _ _ => still

theorem TakesTurns.not_engaged (h : TakesTurns allowed first last)
    (hf : ∃ relay, first.relays[index]? = some relay ∧ ¬ relay.phase.Engaged) :
    ∃ relay, last.relays[index]? = some relay ∧ ¬ relay.phase.Engaged := by
  induction h with
  | refl => exact hf
  | tail _ turn ih =>
    obtain ⟨relay, hr, idle⟩ := ih
    cases turn with
    | elapse => exact ⟨relay, hr, idle⟩
    | call => exact ⟨relay, hr, idle⟩
    | @run place before after _ hb run =>
      by_cases same : place = index
      · subst same
        exact ⟨after, getElem?_replace_self hb, Relay.not_engaged_of_step? run.step?_eq_none⟩
      · exact ⟨relay, (getElem?_replace_ne same).trans hr, idle⟩

/-- What it means for a relay that its tunnel started to close at a moment. -/
structure EndsPromptly (allowed : Operation → Prop) (first last : Tunnel) (index moment : Nat)
    (relay : Relay) : Prop where
  exit_le : ∀ exit time, relay.exit? = some (exit, time) →
    max moment first.now ≤ time ∧ time ≤ max moment first.now + Millis.closeLimit
  exits : max moment first.now + Millis.closeLimit < last.now → relay.exit?.isSome
  /-- In a tunnel that was broken by then there is no time for the sink. -/
  abrupt : ∀ middle, Reaches allowed first middle → Reaches allowed middle last →
    middle.context.broken = true → (middle.context.closing = false ∨ middle = first) →
    (∀ exit time, relay.exit? = some (exit, time) → time = max moment first.now) ∧
      (max moment first.now < last.now → relay.exit?.isSome)
  /-- Later than that moment, and between turns at once, nothing is read or written any more. -/
  still : ∀ middle before, Reaches allowed first middle → Reaches allowed middle last →
    middle.relays[index]? = some before → middle.context.closing = true →
    (moment < middle.now ∨ TakesTurns allowed first middle) → relay.dealings = before.dealings

/-- A relay ends promptly once its tunnel is closing, whatever its streams do. -/
theorem ends_promptly {direction : Direction} {timeout bufferSize : Nat} {source : Source}
    {sink : Sink} (started : first.relays[index]? =
      some (.begin direction timeout bufferSize source sink first.now))
    (past : ∀ moment ∈ first.context.closedAt, moment ≤ first.now)
    (h : Reaches allowed first last) (closed : last.context.closedAt = some moment) :
    ∃ relay, last.relays[index]? = some relay ∧
      relay.Prompt first.now last.now last.context ∧
      EndsPromptly allowed first last index moment relay := by
  obtain ⟨fresh, place, prompt, idle, abrupt⟩ := prompt_begin started past
  obtain ⟨relay, hr, ends⟩ := h.prompt ⟨fresh, place, prompt⟩
  have hurries := ends.hurries moment closed
  refine ⟨relay, hr, ends, fun exit time he => hurries.exit_le he, hurries.isSome_exit?, ?_, ?_⟩
  · intro middle before after broken reason
    obtain ⟨known, hk, prompt'⟩ := before.prompt ⟨fresh, place, prompt⟩
    have abrupt' : ∀ moment ∈ middle.context.closedAt, known.Abrupt (max moment first.now) := by
      rcases reason with opened | rfl
      · intro moment hm
        rw [Context.closing_of_mem hm] at opened
        cases opened
      · obtain rfl : fresh = known := Option.some.inj (place.symm.trans hk)
        exact fun moment _ => abrupt _
    obtain ⟨found, hf, resets⟩ := after.resets ⟨known, hk, prompt', broken, abrupt'⟩
    obtain rfl : relay = found := Option.some.inj (hr.symm.trans hf)
    have sudden := resets.abrupt moment closed
    exact ⟨fun exit time he => sudden.exit_eq he, sudden.isSome_exit? hurries⟩
  · intro middle before reached after hb closing late
    obtain ⟨known, hk, prompt'⟩ := reached.prompt ⟨fresh, place, prompt⟩
    obtain rfl : before = known := Option.some.inj (hb.symm.trans hk)
    obtain ⟨moment', hm⟩ := Option.isSome_iff_exists.mp closing
    obtain rfl : moment' = moment := Option.some.inj ((after.closedAt_eq hm).symm.trans closed)
    -- a step that was begun in the open tunnel is over by the next moment, or the next turn
    have quiet : ¬ before.phase.Engaged := by
      rcases late with late | turns
      · intro engaged
        exact Nat.ne_of_gt late (prompt'.engaged moment' hm engaged)
      · obtain ⟨other, ho, quiet⟩ := turns.not_engaged ⟨fresh, place, idle⟩
        obtain rfl : before = other := Option.some.inj (hb.symm.trans ho)
        exact quiet
    obtain ⟨found, hf, still⟩ := after.still ⟨before, hb, closing, quiet, rfl⟩
    obtain rfl : relay = found := Option.some.inj (hr.symm.trans hf)
    exact still.same

end Tunnel

end TunnelServer
