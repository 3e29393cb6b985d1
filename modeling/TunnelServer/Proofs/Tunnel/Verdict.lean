import TunnelServer.Proofs.Tunnel.Idleness

/-!
# When an idle tunnel is given up

A relay that reads nothing asks at each deadline whether the other direction wrote within the time
that a read may take, and gets a new deadline if it did. So a relay does not give up before that
time is over since it last completed a chunk and since the other direction last wrote, and it does
so before twice that time is over since the later one of the two.
-/

namespace TunnelServer

namespace Source

variable {room now : Nat} {wake : Option Nat} {script rest : List Event}

theorem pollScript_of_pending (h : pollScript room now script = (.pending wake, rest)) :
    pollScript room now rest = (.pending wake, rest) := by
  fun_induction pollScript room now script with
  | case2 some =>
    obtain ⟨rfl, rfl⟩ := by simpa using h
    simp [pollScript, some]
  | case4 event later some early =>
    obtain ⟨rfl, rfl⟩ := by simpa using h
    simp [pollScript, some, early]
  | case7 _ _ _ _ _ ih => exact ih h
  | _ => simp at h

end Source

/-- Adds the present time to times of which the newest comes first, if it counts. -/
def noteIf (counts : Prop) [Decidable counts] (now : Nat) (noted : List Nat) : List Nat :=
  if counts then now :: noted else noted

theorem mem_noteIf {counts : Prop} [Decidable counts] {now time : Nat} {noted : List Nat}
    (h : time ∈ noteIf counts now noted) : time = now ∨ time ∈ noted := by
  unfold noteIf at h
  split at h
  · exact List.mem_cons.mp h
  · exact .inr h

theorem subset_noteIf {counts : Prop} [Decidable counts] (now : Nat) (noted : List Nat) :
    noted ⊆ noteIf counts now noted := by
  unfold noteIf
  split
  · exact List.subset_cons_self now noted
  · exact List.Subset.refl noted

theorem le_of_find? {noted : List Nat} {time newest moment : Nat}
    (sorted : noted.Pairwise (· ≥ ·)) (h : noted.find? (· < time) = some newest)
    (mem : moment ∈ noted) (early : moment < time) : moment ≤ newest := by
  obtain ⟨-, late, older, rfl, skipped⟩ := List.find?_eq_some_iff_append.mp h
  rcases List.mem_append.mp mem with mem | mem
  · have notEarly := skipped moment mem
    simp only [early, decide_true, Bool.not_true, Bool.false_eq_true] at notEarly
  · rcases List.mem_cons.mp mem with rfl | mem
    · exact Nat.le_refl _
    · exact (List.pairwise_cons.mp (List.pairwise_append.mp sorted).2.1).1 moment mem

namespace Context

/-- These are the times at which writes of a direction were noted until now, the newest first. -/
structure Heard (direction : Direction) (now : Nat) (noted : List Nat) (context : Context) :
    Prop where
  begun : context.start ≤ now
  sorted : noted.Pairwise (· ≥ ·)
  within : ∀ time ∈ noted, context.start ≤ time ∧ time ≤ now
  newest : context.lastWrite direction = (noted.head?.map context.stamp).getD 0

variable {context shared : Context} {direction : Direction} {now later window : Nat}
  {noted : List Nat}

theorem heard_fresh {label : String} {debug : Bool} {start : Nat} (h : start ≤ now) :
    (fresh label debug start).Heard direction now [] :=
  ⟨h, .nil, nofun, by cases direction <;> rfl⟩

theorem Heard.elapse (h : context.Heard direction now noted) (goes : now ≤ later) :
    context.Heard direction later noted where
  begun := Nat.le_trans h.begun goes
  sorted := h.sorted
  within time mem := ⟨(h.within time mem).1, Nat.le_trans (h.within time mem).2 goes⟩
  newest := h.newest

theorem Heard.note {counts : Prop} [Decidable counts] (h : context.Heard direction now noted)
    (start_eq : shared.start = context.start)
    (wrote : counts → shared.lastWrite direction = context.stamp now)
    (kept : ¬ counts → shared.lastWrite direction = context.lastWrite direction) :
    shared.Heard direction now (noteIf counts now noted) := by
  have begun : shared.start ≤ now := start_eq ▸ h.begun
  have stamps : shared.stamp = context.stamp := funext (stamp_congr start_eq)
  have old (time : Nat) (mem : time ∈ noted) : shared.start ≤ time ∧ time ≤ now :=
    start_eq ▸ h.within time mem
  unfold noteIf
  by_cases counted : counts
  · rw [if_pos counted]
    refine ⟨begun, List.pairwise_cons.mpr ⟨fun time mem => (old time mem).2, h.sorted⟩, ?_, ?_⟩
    · intro time mem
      rcases List.mem_cons.mp mem with rfl | mem
      · exact ⟨begun, Nat.le_refl _⟩
      · exact old time mem
    · rw [stamps]
      exact wrote counted
  · rw [if_neg counted]
    refine ⟨begun, h.sorted, old, ?_⟩
    rw [stamps]
    exact (kept counted).trans h.newest

theorem Heard.effect {operation : Operation} (h : context.Heard direction now noted) :
    (operation.effect now context).Heard direction now
      (noteIf (operation = .recordWrite direction) now noted) := by
  refine h.note Operation.start_effect ?_ fun other => Operation.lastWrite_effect_of_ne other
  rintro rfl
  exact (context.lastWrite_recordWrite now direction direction).trans (if_pos rfl)

theorem Heard.step {relay after : Relay} (h : context.Heard direction now noted)
    (step : relay.step? now context = some (after, shared)) :
    shared.Heard direction now
      (noteIf (relay.phase = .recording ∧ relay.direction = direction) now noted) := by
  have made := Relay.Step.of_step? step
  refine h.note made.start_eq ?_ fun other => ?_
  · rintro ⟨hp, rfl⟩
    simp only [Relay.step?, hp, Option.some.injEq, Prod.mk.injEq] at step
    rw [← step.2, context.lastWrite_recordWrite, if_pos rfl]
  · rcases made.writes with ⟨-, same⟩ | ⟨hp, -, rfl⟩
    · rw [same]
    · have apart : direction ≠ relay.direction := fun same => other ⟨hp, same.symm⟩
      rw [context.lastWrite_recordWrite, if_neg apart]

theorem Heard.le_of_silent (h : context.Heard direction now noted)
    (silent : context.wroteWithin now direction window = false)
    (fits : now - context.start + 1 < UInt64.size) (small : window < UInt64.size) :
    ∀ time ∈ noted, time + window ≤ now := by
  obtain ⟨-, sorted, within, newest⟩ := h
  cases noted with
  | nil => exact nofun
  | cons last older =>
    have far : last + window ≤ now :=
      le_of_wroteWithin_eq silent newest (within last List.mem_cons_self).2 fits small
    intro time mem
    rcases List.mem_cons.mp mem with rfl | mem
    · exact far
    · have early : time ≤ last := (List.pairwise_cons.mp sorted).1 time mem
      omega

theorem Heard.wroteWithin {time : Nat} (h : context.Heard direction now noted) (mem : time ∈ noted)
    (near : now < time + window) (fits : now - context.start + 1 < UInt64.size)
    (small : window < UInt64.size) : context.wroteWithin now direction window = true := by
  cases busy : context.wroteWithin now direction window with
  | true => rfl
  | false =>
    have far := h.le_of_silent busy fits small time mem
    omega

theorem Heard.exists_lt (h : context.Heard direction now noted)
    (busy : context.wroteWithin now direction window = true)
    (fits : now - context.start + 1 < UInt64.size) :
    ∃ time ∈ noted, time ≤ now ∧ now < time + window := by
  obtain ⟨-, -, within, newest⟩ := h
  cases noted with
  | nil => exact absurd newest (lastWrite_ne_zero_of_wroteWithin busy)
  | cons last older =>
    obtain ⟨began, past⟩ := within last List.mem_cons_self
    exact ⟨last, List.mem_cons_self, past, lt_of_wroteWithin busy newest began past fits⟩

end Context

/-- When a read is given up by a relay that rested since then: when its own time is over, or that of
a read which was tried again since the other direction had written. -/
def GivenUpAt (window rest : Nat) (noted : List Nat) (time : Nat) : Prop :=
  rest + window ≤ time ∧
    (time = rest + window ∨ ∃ moment ∈ noted, moment + window ≤ time ∧ time < moment + 2 * window)

theorem GivenUpAt.mono {window rest time : Nat} {noted more : List Nat}
    (h : GivenUpAt window rest noted time) (grown : noted ⊆ more) :
    GivenUpAt window rest more time := by
  refine ⟨h.1, h.2.imp id ?_⟩
  rintro ⟨moment, mem, bounds⟩
  exact ⟨moment, grown mem, bounds⟩

namespace Relay

/-- When the relay last completed a chunk, or else when it began. -/
def restsSince (begun : Nat) (relay : Relay) : Nat := relay.completed.head?.getD begun

/-- The time for a read is over, and there is nothing to read. -/
def Expires (now : Nat) (relay : Relay) : Prop :=
  relay.phase = .overdue ∨
    (∃ deadline, relay.phase.deadline? = some deadline ∧ deadline ≤ now) ∧
      ∃ wake rest, Source.pollScript relay.bufferSize now relay.source.script =
        (.pending wake, rest)

/-- What a relay knows of its reads beside the noted writes of the other direction. -/
structure Watches (window begun now : Nat) (context : Context) (noted : List Nat)
    (relay : Relay) : Prop where
  timeout_eq : relay.timeout = window
  begun_le : begun ≤ relay.restsSince begun
  rest_le : relay.restsSince begun ≤ now
  ahead : ∀ deadline, relay.phase.deadline? = some deadline →
    now ≤ deadline ∧ GivenUpAt window (relay.restsSince begun) noted deadline
  overdue : relay.phase = .overdue → GivenUpAt window (relay.restsSince begun) noted now ∧
    ∃ wake, Source.pollScript relay.bufferSize now relay.source.script =
      (.pending wake, relay.source.script)
  lost : relay.GivesUp → ∃ moment, moment ≤ now ∧ relay.LostHope moment now context ∧
    GivenUpAt window (relay.restsSince begun) noted moment ∧
    ∀ time ∈ noted, time < moment → time + window ≤ moment

variable {window begun now later : Nat} {context shared : Context} {noted : List Nat}
  {relay after : Relay}

theorem watches_begin (direction : Direction) (bufferSize : Nat) (source : Source) (sink : Sink) :
    (begin direction window bufferSize source sink now).Watches window now now context noted where
  timeout_eq := rfl
  begun_le := Nat.le_refl _
  rest_le := Nat.le_refl _
  ahead := by
    rintro deadline ⟨⟩
    exact ⟨Nat.le_add_right .., Nat.le_refl _, .inl rfl⟩
  overdue := nofun
  lost := by
    rintro (gone | gone) <;> cases gone

theorem Watches.small (h : relay.Watches window begun now context noted)
    (given : GivenUpAt window (relay.restsSince begun) noted now) (began : context.start ≤ begun)
    (fits : now - context.start + 1 < UInt64.size) : window < UInt64.size := by
  have late := given.1
  have order := h.begun_le
  omega

theorem Watches.advance {counts : Prop} [Decidable counts]
    (h : relay.Watches window begun now context noted) (rely : context.Advances now shared) :
    relay.Watches window begun now shared (noteIf counts now noted) where
  timeout_eq := h.timeout_eq
  begun_le := h.begun_le
  rest_le := h.rest_le
  ahead deadline hd := (h.ahead deadline hd).imp id (·.mono (subset_noteIf now noted))
  overdue hp := (h.overdue hp).imp (·.mono (subset_noteIf now noted)) id
  lost gone := by
    obtain ⟨moment, past, lost, given, unheard⟩ := h.lost gone
    refine ⟨moment, past, lost.advance rely, given.mono (subset_noteIf now noted), ?_⟩
    intro time mem early
    rcases mem_noteIf mem with rfl | mem
    · omega
    · exact unheard time mem early

theorem Watches.elapse (h : relay.Watches window begun now context noted) (goes : now ≤ later)
    (idle : relay.Idles now context later) : relay.Watches window begun later context noted where
  timeout_eq := h.timeout_eq
  begun_le := h.begun_le
  rest_le := Nat.le_trans h.rest_le goes
  ahead deadline hd := by
    obtain ⟨early, given⟩ := h.ahead deadline hd
    have attends : relay.Attends later deadline :=
      (Attends.reading hd early (Nat.le_refl _)).elapse idle
    exact ⟨(attends.deadline hd).1, given⟩
  overdue hp := by
    have waits := idle.1
    simp only [step?, hp] at waits
    split at waits <;> cases waits
  lost gone := by
    obtain ⟨moment, past, lost, given, unheard⟩ := h.lost gone
    exact ⟨moment, Nat.le_trans past goes, lost.elapse idle, given, unheard⟩

theorem restsSince_eq (same : after.completed = relay.completed) :
    after.restsSince begun = relay.restsSince begun := by
  rw [restsSince, same, restsSince]

/-- A read that begins after a completed chunk has its own time, one that is tried again has its
time from less than a window after a write of the other direction. -/
theorem Watches.step_ahead {deadline : Nat} (h : relay.Watches window begun now context noted)
    (heard : context.Heard relay.direction.opposite now noted)
    (fits : now - context.start + 1 < UInt64.size) (step : Step now relay context after shared)
    (hd : after.phase.deadline? = some deadline) :
    now ≤ deadline ∧ GivenUpAt window (after.restsSince begun) noted deadline := by
  have timeout_eq := h.timeout_eq
  have rest_le := h.rest_le
  cases step with
  | tryRead hp | awaitData hp | resumeRead hp => exact h.ahead deadline (by rw [hp]; exact hd)
  | retryRead hp busy =>
    cases hd
    -- the write that the read is tried again for is the bound on the new deadline
    obtain ⟨time, mem, past, near⟩ := heard.exists_lt busy fits
    have rests : relay.restsSince begun + window ≤ now + relay.timeout := by omega
    refine ⟨Nat.le_add_right .., rests, .inr ⟨time, mem, ?_, ?_⟩⟩ <;> omega
  | record hp =>
    rw [phase_complete] at hd
    cases hd
    have rests : (relay.complete now context.debug).restsSince begun = now := by
      rw [restsSince, completed_complete]
      rfl
    rw [rests, timeout_eq]
    exact ⟨Nat.le_add_right .., Nat.le_refl _, .inl rfl⟩
  | judge =>
    rw [phase_enter] at hd
    split at hd <;> cases hd
  | _ => cases hd

theorem Watches.step_overdue (h : relay.Watches window begun now context noted)
    (step : Step now relay context after shared) (hp : after.phase = .overdue) :
    GivenUpAt window (after.restsSince begun) noted now ∧
      ∃ wake, Source.pollScript after.bufferSize now after.source.script =
        (.pending wake, after.source.script) := by
  cases step with
  | @missDeadline deadline wake rest hq empty late =>
    obtain ⟨early, given⟩ := h.ahead deadline (by rw [hq]; rfl)
    obtain rfl : deadline = now := Nat.le_antisymm late early
    exact ⟨given, wake, Source.pollScript_of_pending empty⟩
  | record =>
    rw [phase_complete] at hp
    cases hp
  | judge =>
    rw [phase_enter] at hp
    split at hp <;> cases hp
  | _ => cases hp

theorem Watches.step_lost (h : relay.Watches window begun now context noted)
    (heard : context.Heard relay.direction.opposite now noted) (began : context.start ≤ begun)
    (fits : now - context.start + 1 < UInt64.size)
    (step : relay.step? now context = some (after, shared)) (gone : after.GivesUp) :
    ∃ moment, moment ≤ now ∧ after.LostHope moment now shared ∧
      GivenUpAt window (after.restsSince begun) noted moment ∧
      ∀ time ∈ noted, time < moment → time + window ≤ moment := by
  have made := Step.of_step? step
  rcases made.givesUp_cases gone with gives | ⟨overdue, rfl, silent, rfl⟩
  · obtain ⟨moment, past, lost, given, unheard⟩ := h.lost gives
    have same : after.restsSince begun = relay.restsSince begun :=
      restsSince_eq (gives.same made).2
    exact ⟨moment, past, lost.step step gone, same ▸ given, unheard⟩
  · have given := (h.overdue overdue).1
    have far := heard.le_of_silent silent fits (h.timeout_eq ▸ h.small given began fits)
    rw [h.timeout_eq] at far
    exact ⟨now, Nat.le_refl _, .judging rfl rfl, given, fun time mem _ => far time mem⟩

theorem Watches.step (h : relay.Watches window begun now context noted)
    (heard : context.Heard relay.direction.opposite now noted) (began : context.start ≤ begun)
    (fits : now - context.start + 1 < UInt64.size)
    (step : relay.step? now context = some (after, shared)) :
    after.Watches window begun now shared noted := by
  have made := Step.of_step? step
  have order : begun ≤ after.restsSince begun ∧ after.restsSince begun ≤ now := by
    rcases made.writes with ⟨kept, -⟩ | ⟨-, added, -⟩
    · rw [restsSince_eq kept]
      exact ⟨h.begun_le, h.rest_le⟩
    · rw [restsSince, added]
      exact ⟨Nat.le_trans h.begun_le h.rest_le, Nat.le_refl _⟩
  exact {
    timeout_eq := made.setup_eq.2.1.trans h.timeout_eq
    begun_le := order.1
    rest_le := order.2
    ahead := fun _ hd => h.step_ahead heard fits made hd
    overdue := h.step_overdue made
    lost := h.step_lost heard began fits step }

theorem runs_of_overdue {wake : Option Nat} (hp : relay.phase = .overdue)
    (opened : context.closing = false)
    (busy : context.wroteWithin now relay.direction.opposite relay.timeout = true)
    (empty : Source.pollScript relay.bufferSize now relay.source.script =
      (.pending wake, relay.source.script)) :
    relay.Runs now context (relay.enter (.awaitingData (now + relay.timeout) wake)) context := by
  have positive := Context.window_pos_of_wroteWithin busy
  have ahead : ¬ now + relay.timeout ≤ now := by omega
  have idle : isDue now wake = false := by
    cases wake with
    | none => rfl
    | some time => simpa [isDue] using Source.lt_of_pollScript_pending empty
  have asked : relay.step? now context =
      some (relay.enter (.reading (now + relay.timeout)), context) := by
    simp only [step?, hp, busy, if_true]
  have looked : (relay.enter (.reading (now + relay.timeout))).step? now context =
      some (relay.enter (.polling (now + relay.timeout)), context) := by
    simp only [step?, phase_enter, opened]
    rfl
  have polled : (relay.enter (.polling (now + relay.timeout))).step? now context =
      some (relay.enter (.awaitingData (now + relay.timeout) wake), context) := by
    simp only [step?, phase_enter, poll, Source.poll, source_enter, bufferSize_enter, empty, ahead,
      if_false]
    rfl
  refine .steps asked (.steps looked (.steps polled (.waits ?_)))
  simp [step?, opened, ahead, idle]

theorem runs_of_deadline {deadline : Nat} {wake : Option Nat} {rest : List Event} {final : Relay}
    (hd : relay.phase.deadline? = some deadline) (late : deadline ≤ now)
    (opened : context.closing = false)
    (empty : Source.pollScript relay.bufferSize now relay.source.script = (.pending wake, rest))
    (runs : ({ relay with source := ⟨rest, relay.source.chunks⟩ }.enter .overdue).Runs now context
      final shared) : relay.Runs now context final shared := by
  have polled : (relay.enter (.polling deadline)).Runs now context final shared := by
    refine .steps ?_ runs
    simp only [step?, phase_enter, poll, Source.poll, source_enter, bufferSize_enter, empty, late,
      if_true]
    rfl
  have looked : (relay.enter (.reading deadline)).Runs now context final shared := by
    refine .steps ?_ polled
    simp only [step?, phase_enter, opened]
    rfl
  unfold Phase.deadline? at hd
  split at hd <;> rename_i hp <;> cases hd
  · have same : relay.enter (.reading deadline) = relay := by rw [enter, ← hp]
    rwa [same] at looked
  · have same : relay.enter (.polling deadline) = relay := by rw [enter, ← hp]
    rwa [same] at polled
  · refine .steps ?_ looked
    simp only [step?, hp, late, decide_true, Bool.or_true, Bool.true_or, if_true]

/-- Beside a direction that wrote lately a relay whose read takes too long goes on to read, with all
of its time, and leaves what the directions share as it is. -/
theorem Watches.runs {moment : Nat} (h : relay.Watches window begun now context noted)
    (heard : context.Heard relay.direction.opposite now noted) (began : context.start ≤ begun)
    (fits : now - context.start + 1 < UInt64.size) (expires : relay.Expires now)
    (opened : context.closing = false) (mem : moment ∈ noted) (near : now < moment + window) :
    ∃ source wake, source.chunks = relay.source.chunks ∧ relay.Runs now context
      ({ relay with source }.enter (.awaitingData (now + window) wake)) context := by
  obtain rfl := h.timeout_eq
  have busy (given : GivenUpAt relay.timeout (relay.restsSince begun) noted now) :
      context.wroteWithin now relay.direction.opposite relay.timeout = true :=
    heard.wroteWithin mem near fits (h.small given began fits)
  rcases expires with overdue | ⟨⟨deadline, hd, late⟩, wake, rest, empty⟩
  · obtain ⟨given, wake, empty⟩ := h.overdue overdue
    exact ⟨relay.source, wake, rfl, runs_of_overdue overdue opened (busy given) empty⟩
  · obtain ⟨early, given⟩ := h.ahead deadline hd
    obtain rfl : deadline = now := Nat.le_antisymm late early
    refine ⟨⟨rest, relay.source.chunks⟩, wake, rfl, runs_of_deadline hd late opened empty ?_⟩
    exact runs_of_overdue rfl opened (busy given) (Source.pollScript_of_pending empty)

theorem Watches.exit {time : Nat} (h : relay.Watches window begun now context noted)
    (he : relay.exit? = some (.idle, time)) :
    GivenUpAt window (relay.restsSince begun) noted time ∧
      ∀ moment ∈ noted, moment < time → moment + window ≤ time := by
  have finished := exit?_eq_some_iff.mp he
  obtain ⟨moment, -, lost, given, unheard⟩ := h.lost (.inr (by rw [finished]; rfl))
  cases lost with
  | finished hp =>
    rw [finished] at hp
    cases hp
    exact ⟨given, unheard⟩
  | judging hp | breaking hp | leaving hp | settling hp =>
    rw [finished] at hp
    cases hp

end Relay

/-- The verdict falls less than two windows after the later one of the last chunk and the last write
of the other direction, and where that wrote nothing a window after the last chunk. -/
theorem GivenUpAt.bounds {window rest time : Nat} {noted : List Nat}
    (h : GivenUpAt window rest noted time) (positive : 0 < window)
    (sorted : noted.Pairwise (· ≥ ·)) :
    match noted.find? (· < time) with
    | none => time = rest + window
    | some newest => time < max rest newest + 2 * window := by
  obtain ⟨-, own | ⟨moment, mem, since, before⟩⟩ := h
  · split
    · exact own
    · omega
  · have early : moment < time := by omega
    split
    · rename_i none
      have skipped := List.find?_eq_none.mp none moment mem
      exact absurd (decide_eq_true early) skipped
    · rename_i newest found
      have le : moment ≤ newest := le_of_find? sorted found mem early
      omega

namespace Tunnel

/-- Moves of a tunnel, with the times at which a direction noted a write, the newest first. -/
inductive Notes (allowed : Operation → Prop) (direction : Direction) (first : Tunnel)
    (early : List Nat) : Tunnel → List Nat → Prop where
  | refl : Notes allowed direction first early first early
  | step {tunnel noted index relay after context} :
      Notes allowed direction first early tunnel noted →
      tunnel.relays[index]? = some relay →
      relay.step? tunnel.now tunnel.context = some (after, context) →
      Notes allowed direction first early (tunnel.replace index relay after context)
        (noteIf (relay.phase = .recording ∧ relay.direction = direction) tunnel.now noted)
  | elapse {tunnel noted later} :
      Notes allowed direction first early tunnel noted → tunnel.now ≤ later →
      (∀ relay ∈ tunnel.relays, relay.Idles tunnel.now tunnel.context later) →
      Notes allowed direction first early { tunnel with now := later } noted
  | call {tunnel noted operation} :
      Notes allowed direction first early tunnel noted → allowed operation →
      Notes allowed direction first early (tunnel.perform operation)
        (noteIf (operation = .recordWrite direction) tunnel.now noted)

variable {allowed : Operation → Prop} {direction : Direction} {first last : Tunnel}
  {early noted : List Nat} {index window : Nat} {relay : Relay}

theorem Notes.reaches (h : Notes allowed direction first early last noted) :
    Reaches allowed first last := by
  induction h with
  | refl => exact .refl
  | step _ place step ih => exact ih.tail (.step place step)
  | elapse _ goes idle ih => exact ih.tail (.elapse goes idle)
  | call _ may ih => exact ih.tail (.call may)

theorem Notes.heard (h : Notes allowed direction first early last noted)
    (heard : first.context.Heard direction first.now early) :
    last.context.Heard direction last.now noted := by
  induction h with
  | refl => exact heard
  | step _ _ step ih => exact ih.step step
  | elapse _ goes _ ih => exact ih.elapse goes
  | call _ _ ih => exact ih.effect

theorem Notes.watches (h : Notes allowed direction.opposite first early last noted)
    (heard : first.context.Heard direction.opposite first.now early) {bufferSize : Nat}
    {source : Source} {sink : Sink}
    (started : first.relays[index]? =
      some (.begin direction window bufferSize source sink first.now))
    (fits : last.now - last.context.start + 1 < UInt64.size) :
    ∃ relay, last.relays[index]? = some relay ∧
      relay.Watches window first.now last.now last.context noted := by
  induction h with
  | refl => exact ⟨_, started, Relay.watches_begin ..⟩
  | @elapse tunnel noted later _ goes idle ih =>
    have fits' : tunnel.now - tunnel.context.start + 1 < UInt64.size := by
      have fits : later - tunnel.context.start + 1 < UInt64.size := fits
      omega
    obtain ⟨relay, hr, watches⟩ := ih fits'
    exact ⟨relay, hr, watches.elapse goes (idle relay (List.mem_of_getElem? hr))⟩
  | @call tunnel noted operation _ _ ih =>
    rw [start_perform] at fits
    obtain ⟨relay, hr, watches⟩ := ih fits
    exact ⟨relay, hr, watches.advance (operation.advances_effect _ _)⟩
  | @step tunnel noted place known after context reached hk step ih =>
    have made := Relay.Step.of_step? step
    have fits' : tunnel.now - tunnel.context.start + 1 < UInt64.size := made.start_eq ▸ fits
    obtain ⟨relay, hr, watches⟩ := ih fits'
    by_cases own : place = index
    · subst own
      obtain rfl : known = relay := Option.some.inj (hk.symm.trans hr)
      have along : known.direction = direction := reached.reaches.direction_eq started hk
      have apart : ¬ (known.phase = .recording ∧ known.direction = direction.opposite) :=
        fun both => direction.opposite_ne (both.2.symm.trans along)
      have began : tunnel.context.start ≤ first.now :=
        reached.reaches.start_eq ▸ heard.begun
      refine ⟨after, getElem?_replace_self hk, ?_⟩
      rw [noteIf, if_neg apart]
      exact watches.step (along.symm ▸ reached.heard heard) began fits' step
    · exact ⟨relay, (getElem?_replace_ne own).trans hr, watches.advance made.advances⟩

theorem Notes.beside {tunnel : Tunnel} (h : Notes allowed direction first early tunnel noted)
    (moves : Reaches (fun _ => False) tunnel last)
    (other : ∀ relay ∈ tunnel.relays, relay.direction ≠ direction) :
    Notes allowed direction first early last noted ∧
      ∀ relay ∈ last.relays, relay.direction ≠ direction := by
  induction moves with
  | refl => exact ⟨h, other⟩
  | @tail middle _ _ move ih =>
    obtain ⟨notes, apart⟩ := ih
    cases move with
    | elapse goes idle => exact ⟨notes.elapse goes idle, apart⟩
    | call never => exact never.elim
    | @step index relay after context place step =>
      have along := apart relay (List.mem_of_getElem? place)
      have noted_eq : noteIf (relay.phase = .recording ∧ relay.direction = direction) middle.now
          noted = noted := if_neg fun both => along both.2
      refine ⟨noted_eq ▸ notes.step place step, fun known mem => ?_⟩
      rcases List.mem_or_eq_of_mem_set mem with mem | rfl
      · exact apart known mem
      · rwa [(Relay.Step.of_step? step).setup_eq.1]

/-- When a relay ends because nothing moves, its last chunk and the last write of the other
direction lie at least the time of a read back, and the later one of them less than twice that time;
where the other direction wrote nothing the verdict falls exactly that time after the last chunk.
Beside a direction that wrote within that time a relay of an open tunnel goes on to read, with all
of its time, and leaves what the directions share as it is. Time stamps must not have overflowed. -/
theorem idle_verdict_time {bufferSize : Nat} {source : Source} {sink : Sink}
    (heard : first.context.Heard direction.opposite first.now early)
    (started : first.relays[index]? =
      some (.begin direction window bufferSize source sink first.now))
    (positive : 0 < window) (h : Notes allowed direction.opposite first early last noted)
    (fits : last.now - last.context.start + 1 < UInt64.size)
    (hl : last.relays[index]? = some relay) :
    (∀ time, relay.exit? = some (.idle, time) →
      relay.restsSince first.now + window ≤ time ∧
      match noted.find? (· < time) with
      | none => time = relay.restsSince first.now + window
      | some newest => newest + window ≤ time ∧
          time < max (relay.restsSince first.now) newest + 2 * window) ∧
    ∀ moment ∈ noted, last.now < moment + window → relay.Expires last.now →
      last.context.closing = false →
      ∃ source wake, source.chunks = relay.source.chunks ∧
        relay.Runs last.now last.context
          ({ relay with source }.enter (.awaitingData (last.now + window) wake)) last.context := by
  obtain ⟨relay', hr, watches⟩ := h.watches heard started fits
  obtain rfl : relay = relay' := Option.some.inj (hl.symm.trans hr)
  have hears := h.heard heard
  constructor
  · intro time he
    obtain ⟨given, unheard⟩ := watches.exit he
    have bounds := given.bounds positive hears.sorted
    refine ⟨given.1, ?_⟩
    split at bounds
    · exact bounds
    · rename_i newest found
      have early : newest < time := by simpa using List.find?_some found
      exact ⟨unheard newest (List.mem_of_find?_eq_some found) early, bounds⟩
  · intro moment mem near expires opened
    have along : relay.direction = direction := h.reaches.direction_eq started hl
    have began : last.context.start ≤ first.now := h.reaches.start_eq ▸ heard.begun
    exact watches.runs (along.symm ▸ hears) began fits expires opened mem near

/-- A client that sends nothing, with 4 milliseconds for a read. -/
def vigil : Tunnel where
  now := 0
  context := .fresh "vigil" false 0
  relays := [.begin .clientToDestination 4 2 (.ofScript []) (.ofPlan .unrestricted) 0]
  log := []

/-- The other direction wrote at 3, and now it is 4. -/
def vigilAfterWrite : Tunnel :=
  { Tunnel.perform { vigil.round with now := 3 } (.recordWrite .destinationToClient) with now := 4 }

theorem idle_verdict_time_vigil :
    Notes (· = .recordWrite .destinationToClient) .destinationToClient vigil []
        vigilAfterWrite [3] ∧
      (∃ relay source wake, vigilAfterWrite.relays = [relay] ∧
        source.chunks = relay.source.chunks ∧ relay.Runs 4 vigilAfterWrite.context
          ({ relay with source }.enter (.awaitingData (4 + 4) wake)) vigilAfterWrite.context) ∧
      Notes (· = .recordWrite .destinationToClient) .destinationToClient vigil []
        (vigilAfterWrite.runUntil 100) [3] ∧
      ∃ relay, (vigilAfterWrite.runUntil 100).relays = [relay] ∧
        relay.exit? = some (.idle, 8) ∧ relay.restsSince 0 + 4 ≤ 8 ∧
        3 + 4 ≤ 8 ∧ 8 < max (relay.restsSince 0) 3 + 2 * 4 := by
  have heard : vigil.context.Heard Direction.clientToDestination.opposite vigil.now [] :=
    Context.heard_fresh (Nat.le_refl 0)
  have started : vigil.relays[0]? =
    some (.begin .clientToDestination 4 2 (.ofScript []) (.ofPlan .unrestricted) 0) := rfl
  have waits : Notes (· = .recordWrite .destinationToClient) .destinationToClient vigil []
      vigil.round [] :=
    (Notes.refl.beside (takesTurns_round vigil).reaches (by decide)).1
  have wrote : Notes (· = .recordWrite .destinationToClient) .destinationToClient vigil []
      vigilAfterWrite [3] :=
    ((waits.elapse (by decide) (by unfold Relay.Idles; decide)).call rfl).elapse (by decide)
      (by unfold Relay.Idles; decide)
  have gone : Notes (· = .recordWrite .destinationToClient) .destinationToClient vigil []
      (vigilAfterWrite.runUntil 100) [3] :=
    (wrote.beside (takesTurns_advance _ _ vigilAfterWrite).reaches (by decide)).1
  obtain ⟨relay, only⟩ : ∃ relay, vigilAfterWrite.relays = [relay] :=
    List.length_eq_one_iff.mp (by decide)
  obtain ⟨relay', only'⟩ : ∃ relay, (vigilAfterWrite.runUntil 100).relays = [relay] :=
    List.length_eq_one_iff.mp (by decide)
  have here : vigilAfterWrite.relays[0]? = some relay := by rw [only, List.getElem?_cons_zero]
  have here' : (vigilAfterWrite.runUntil 100).relays[0]? = some relay' := by
    rw [only', List.getElem?_cons_zero]
  have expires : relay.Expires 4 := by
    have silent : ∀ relay ∈ vigilAfterWrite.relays, relay.phase.deadline? = some 4 ∧
        Source.pollScript relay.bufferSize 4 relay.source.script = (.pending none, []) := by
      decide
    obtain ⟨deadline, empty⟩ := silent relay (List.mem_of_getElem? here)
    exact .inr ⟨⟨4, deadline, Nat.le_refl 4⟩, none, [], empty⟩
  have exited : relay'.exit? = some (.idle, 8) := by
    have exits : ∀ relay ∈ (vigilAfterWrite.runUntil 100).relays,
        relay.exit? = some (.idle, 8) := by decide
    exact exits relay' (List.mem_of_getElem? here')
  obtain ⟨source, wake, same, runs⟩ :=
    (idle_verdict_time heard started (by decide) wrote (by decide) here).2 3
      (List.mem_singleton_self 3) (by decide) expires rfl
  have verdict :=
    (idle_verdict_time heard started (by decide) gone (by decide) here').1 8 exited
  exact ⟨wrote, ⟨relay, source, wake, only, same, runs⟩, gone, relay', only', exited, verdict.1,
    verdict.2⟩

end Tunnel

end TunnelServer
