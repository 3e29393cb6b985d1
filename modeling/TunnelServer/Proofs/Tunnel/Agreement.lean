import Mathlib.Logic.Relation
import TunnelServer.Proofs.Tunnel.Closing

/-!
# The kind of the closes and the broken flag

Here the steps of the relays are interleaved in any way, and the clock may go on between any two of
them. When all relays are finished and the owner has called `finish`, both connections were closed
in the way the broken flag says, with one exception: a relay at the end of its stream started to
close the tunnel while another one, which had looked before, was about to break it. Then the
client's connection is never closed.
-/

namespace TunnelServer

/-- Both connections were closed, and in the way the broken flag says. -/
def Context.ClosedInKind (context : Context) : Prop :=
  context.closes =
    if context.broken then [⟨.destination, .abortive⟩, ⟨.client, .abortive⟩]
    else [⟨.destination, .orderly⟩, ⟨.client, .orderly⟩]

instance (context : Context) : Decidable context.ClosedInKind :=
  inferInstanceAs (Decidable (_ = _))

/-- The exits of a relay that has broken the tunnel. -/
def RelayExit.Breaks (exit : RelayExit) : Prop := exit = .idle ∨ exit = .fault

/-- What is known of the tunnel when a relay leaves it for this exit. -/
def RelayExit.Attests (closure : Closure) : RelayExit → Prop
  | .eof => True
  | .idle | .fault => closure.broken = true
  | .closed => closure.closing = true

/-- What is known of the tunnel in a phase of one of its relays. -/
def Phase.Attests (closure : Closure) : Phase → Prop
  | .breaking exit => exit.Breaks
  | .leaving exit => exit.Attests closure
  | .settling exit | .closingSink exit | .draining exit _ | .finished exit _ =>
    closure.closing = true ∧ exit.Attests closure
  | _ => True

/-- A tunnel goes from one of these to the other without reopening or mending. -/
structure Closure.Grows (before after : Closure) : Prop where
  closing : before.closing = true → after.closing = true
  broken : before.broken = true → after.broken = true

theorem Closure.Grows.refl (closure : Closure) : closure.Grows closure := ⟨id, id⟩

theorem RelayExit.Attests.mono {before after : Closure} {exit : RelayExit}
    (h : exit.Attests before) (hg : before.Grows after) : exit.Attests after := by
  cases exit with
  | eof => trivial
  | idle | fault => exact hg.broken h
  | closed => exact hg.closing h

theorem Phase.Attests.mono {before after : Closure} {phase : Phase} (h : phase.Attests before)
    (hg : before.Grows after) : phase.Attests after := by
  cases phase with
  | breaking => exact h
  | leaving => exact RelayExit.Attests.mono h hg
  | settling | closingSink | draining | finished =>
    exact ⟨hg.closing h.1, h.2.mono hg⟩
  | _ => trivial

theorem Context.grows_shutdown (context : Context) (now : Nat) :
    context.closure.Grows (context.shutdown now).closure where
  closing _ := context.closing_shutdown now
  broken h := (context.broken_shutdown now).trans h

theorem Context.grows_markBroken (context : Context) :
    context.closure.Grows context.markBroken.closure := ⟨id, fun _ => rfl⟩

theorem Operation.grows_effect (operation : Operation) (now : Nat) (context : Context) :
    context.closure.Grows (operation.effect now context).closure := by
  cases operation with
  | recordWrite direction => cases direction <;> exact .refl _
  | markBroken => exact context.grows_markBroken
  | shutdown => exact context.grows_shutdown now
  | finish =>
    show context.closure.Grows context.finish.closure
    unfold Context.finish
    split <;> exact ⟨id, id⟩
  | _ => exact .refl _

theorem Operation.closedAt_effect {operation : Operation} (h : operation ≠ .shutdown) (now : Nat)
    (context : Context) : (operation.effect now context).closedAt = context.closedAt := by
  cases operation with
  | recordWrite direction => cases direction <;> rfl
  | shutdown => exact absurd rfl h
  | finish =>
    show context.finish.closedAt = context.closedAt
    unfold Context.finish
    split <;> rfl
  | _ => rfl

namespace Relay

variable {now : Nat} {relay after : Relay} {context shared : Context}

/-- A step leaves the tunnel as far with closing as it was, breaks it, or starts to close it. -/
theorem Step.closure_cases (h : Step now relay context after shared) :
    shared.closure = context.closure ∨
    (∃ exit, relay.phase = .breaking exit ∧ after.phase = .leaving exit ∧
      shared = context.markBroken) ∨
    ∃ exit, relay.phase = .leaving exit ∧ after.phase = .settling exit ∧
      shared = context.shutdown now := by
  cases h with
  | markBroken hp => exact .inr (.inl ⟨_, hp, rfl, rfl⟩)
  | leave hp => exact .inr (.inr ⟨_, hp, rfl, rfl⟩)
  | record => exact .inl (by cases relay.direction <;> rfl)
  | _ => exact .inl rfl

theorem Step.grows (h : Step now relay context after shared) :
    context.closure.Grows shared.closure := by
  rcases h.closure_cases with same | ⟨exit, -, -, rfl⟩ | ⟨exit, -, -, rfl⟩
  · rw [same]
    exact .refl _
  · exact context.grows_markBroken
  · exact context.grows_shutdown now

theorem Step.decided?_eq {exit : RelayExit} (h : Step now relay context after shared)
    (hd : relay.phase.decided? = some exit) : after.phase.decided? = some exit := by
  cases h with
  | markBroken hp | leave hp | spareSink hp | turnToSink hp | sinkClosed hp | sinkFailed hp
  | sinkPending hp | sinkDrained hp | drainFailed hp | abandonSink hp =>
    rw [hp] at hd
    exact hd
  | haltRead hp | tryRead hp | take hp | meetEnd hp | meetFault hp | missDeadline hp
  | awaitData hp | resumeRead hp | retryRead hp | loseHope hp | giveWay hp | judge hp
  | haltWrite hp | tryWrite hp | tryFlush hp | refused hp | stalled hp | ignored hp
  | writePart hp | writeRest hp | resumeWrite hp | flushFailed hp | flushPending hp | flushed hp
  | record hp =>
    rw [hp] at hd
    cases hd

theorem Step.attests (h : Step now relay context after shared)
    (ha : relay.phase.Attests context.closure) : after.phase.Attests shared.closure := by
  have grows := h.grows
  cases h with
  | haltRead _ hc | giveWay _ hc | haltWrite _ hc => exact hc
  | @judge cause hp =>
    cases cause with
    | silence => exact .inl rfl
    | readFault | writeFault => exact .inr rfl
    | sourceEnded => trivial
  | @markBroken exit hp =>
    rw [hp] at ha
    rcases ha with rfl | rfl <;> rfl
  | @leave exit hp =>
    rw [hp] at ha
    exact ⟨context.closing_shutdown now, RelayExit.Attests.mono ha grows⟩
  | spareSink hp | turnToSink hp | sinkClosed hp | sinkFailed hp | sinkPending hp | sinkDrained hp
  | drainFailed hp | abandonSink hp =>
    rw [hp] at ha
    exact ha
  | record =>
    rw [phase_complete]
    trivial
  | _ => trivial

end Relay

namespace Tunnel

/-- One move of relays that run beside each other: nothing is said of the clock but that it does not
go back. -/
inductive Shuffle (allowed : Operation → Prop) : Tunnel → Tunnel → Prop where
  | step {tunnel index relay after context} :
      tunnel.relays[index]? = some relay →
      relay.step? tunnel.now tunnel.context = some (after, context) →
      Shuffle allowed tunnel (tunnel.replace index relay after context)
  | elapse {tunnel later} : tunnel.now ≤ later → Shuffle allowed tunnel { tunnel with now := later }
  | call {tunnel operation} : allowed operation → Shuffle allowed tunnel (tunnel.perform operation)

variable {allowed : Operation → Prop} {tunnel next first last : Tunnel} {index : Nat}
  {relay after : Relay} {context : Context}

theorem Reaches.shuffles (h : Reaches allowed first last) :
    Relation.ReflTransGen (Shuffle allowed) first last := by
  induction h with
  | refl => exact .refl
  | tail _ move ih =>
    apply ih.tail
    cases move with
    | step place step => exact .step place step
    | elapse later => exact .elapse later
    | call may => exact .call may

theorem mem_replace (place : tunnel.relays[index]? = some relay) :
    after ∈ (tunnel.replace index relay after context).relays :=
  List.mem_of_getElem? (getElem?_replace_self place)

theorem exists_mem_replace {P : Relay → Prop} (place : tunnel.relays[index]? = some relay)
    (keep : P relay → P after) (h : ∃ other ∈ tunnel.relays, P other) :
    ∃ other ∈ (tunnel.replace index relay after context).relays, P other := by
  obtain ⟨other, mem, holds⟩ := h
  obtain ⟨spot, hs⟩ := List.mem_iff_getElem?.mp mem
  by_cases same : index = spot
  · subst same
    obtain rfl : relay = other := Option.some.inj (place.symm.trans hs)
    exact ⟨after, mem_replace place, keep holds⟩
  · exact ⟨other, List.mem_of_getElem? ((getElem?_replace_ne same).trans hs), holds⟩

/-- The end of some relay is decided, and its exit is of this sort. -/
def HasDecided (tunnel : Tunnel) (sort : RelayExit → Prop) : Prop :=
  ∃ relay ∈ tunnel.relays, ∃ exit, relay.phase.decided? = some exit ∧ sort exit

theorem HasDecided.replace {sort : RelayExit → Prop} (h : tunnel.HasDecided sort)
    (place : tunnel.relays[index]? = some relay)
    (step : relay.Step tunnel.now tunnel.context after context) :
    (tunnel.replace index relay after context).HasDecided sort := by
  refine exists_mem_replace place ?_ h
  rintro ⟨exit, decided, holds⟩
  exact ⟨exit, step.decided?_eq decided, holds⟩

/-- How a tunnel may stand while its relays are interleaved. -/
inductive Stands (tunnel : Tunnel) : Prop where
  | opened {broken : Bool} : tunnel.context.closure = ⟨false, broken, []⟩ → Stands tunnel
  | reset : tunnel.context.closure = .once true → Stands tunnel
  | ended : tunnel.context.closure = .once false → tunnel.HasDecided (· = .eof) → Stands tunnel
  /-- The tunnel was broken after another relay had closed it in order. -/
  | belated : tunnel.context.closure = ⟨true, true, [⟨.destination, .orderly⟩]⟩ →
      tunnel.HasDecided (· = .eof) → tunnel.HasDecided RelayExit.Breaks → Stands tunnel

theorem hasDecided_replace_self {sort : RelayExit → Prop} {exit : RelayExit}
    (place : tunnel.relays[index]? = some relay) (hd : after.phase.decided? = some exit)
    (holds : sort exit) : (tunnel.replace index relay after context).HasDecided sort :=
  ⟨after, mem_replace place, exit, hd, holds⟩

theorem Stands.break (h : tunnel.Stands) {exit : RelayExit} (breaks : exit.Breaks)
    (place : tunnel.relays[index]? = some relay)
    (step : relay.Step tunnel.now tunnel.context after tunnel.context.markBroken)
    (hd : after.phase.decided? = some exit) :
    (tunnel.replace index relay after tunnel.context.markBroken).Stands := by
  have broke : (tunnel.replace index relay after tunnel.context.markBroken).HasDecided
      RelayExit.Breaks := hasDecided_replace_self place hd breaks
  have closure : tunnel.context.markBroken.closure =
      { tunnel.context.closure with broken := true } := rfl
  cases h with
  | opened hc =>
    rw [hc] at closure
    exact .opened closure
  | reset hc =>
    rw [hc] at closure
    exact .reset closure
  | ended hc eof =>
    rw [hc] at closure
    exact .belated closure (eof.replace place step) broke
  | belated hc eof =>
    rw [hc] at closure
    exact .belated closure (eof.replace place step) broke

/-- A relay that leaves an open tunnel knows that it is broken, unless its stream has ended. -/
theorem Stands.leave (h : tunnel.Stands) {exit : RelayExit}
    (ha : exit.Attests tunnel.context.closure) (place : tunnel.relays[index]? = some relay)
    (step : relay.Step tunnel.now tunnel.context after (tunnel.context.shutdown tunnel.now))
    (hd : after.phase.decided? = some exit) :
    (tunnel.replace index relay after (tunnel.context.shutdown tunnel.now)).Stands := by
  have same (hc : tunnel.context.closing = true) :
      (tunnel.context.shutdown tunnel.now).closure = tunnel.context.closure :=
    Context.closure_shutdown_of_closing tunnel.now hc
  cases h with
  | @opened broken hc =>
    have closed := Context.closure_shutdown tunnel.now hc
    rw [hc] at ha
    cases broken with
    | true => exact .reset closed
    | false =>
      cases exit with
      | eof => exact .ended closed (hasDecided_replace_self place hd rfl)
      | idle | fault | closed => cases ha
  | reset hc => exact .reset ((same (congrArg Closure.closing hc)).trans hc)
  | ended hc eof =>
    exact .ended ((same (congrArg Closure.closing hc)).trans hc) (eof.replace place step)
  | belated hc eof broke =>
    exact .belated ((same (congrArg Closure.closing hc)).trans hc) (eof.replace place step)
      (broke.replace place step)

theorem Stands.step (h : tunnel.Stands) (place : tunnel.relays[index]? = some relay)
    (step : relay.Step tunnel.now tunnel.context after context)
    (ha : relay.phase.Attests tunnel.context.closure) :
    (tunnel.replace index relay after context).Stands := by
  rcases step.closure_cases with same | ⟨exit, hp, hq, rfl⟩ | ⟨exit, hp, hq, rfl⟩
  · cases h with
    | opened hc => exact .opened (same.trans hc)
    | reset hc => exact .reset (same.trans hc)
    | ended hc eof => exact .ended (same.trans hc) (eof.replace place step)
    | belated hc eof broke =>
      exact .belated (same.trans hc) (eof.replace place step) (broke.replace place step)
  · rw [hp] at ha
    exact h.break ha place step (by rw [hq]; rfl)
  · rw [hp] at ha
    exact h.leave ha place step (by rw [hq]; rfl)

/-- What holds of a tunnel whose relays are interleaved. -/
structure Consistent (tunnel : Tunnel) : Prop where
  some_relay : tunnel.relays ≠ []
  attested : ∀ relay ∈ tunnel.relays, relay.phase.Attests tunnel.context.closure
  stands : tunnel.Stands

theorem Consistent.step (h : tunnel.Consistent) (place : tunnel.relays[index]? = some relay)
    (step : relay.Step tunnel.now tunnel.context after context) :
    (tunnel.replace index relay after context).Consistent where
  some_relay := by
    intro none
    exact h.some_relay (by simpa [replace] using none)
  attested := by
    intro other mem
    rcases List.mem_or_eq_of_mem_set mem with mem | rfl
    · exact (h.attested other mem).mono step.grows
    · exact step.attests (h.attested relay (List.mem_of_getElem? place))
  stands := h.stands.step place step (h.attested relay (List.mem_of_getElem? place))

theorem Consistent.congr (h : tunnel.Consistent) (hr : next.relays = tunnel.relays)
    (hc : next.context.closure = tunnel.context.closure) : next.Consistent where
  some_relay := hr ▸ h.some_relay
  attested := by
    rw [hr, hc]
    exact h.attested
  stands := by
    have kept {sort : RelayExit → Prop} (hd : tunnel.HasDecided sort) : next.HasDecided sort := by
      unfold HasDecided
      rw [hr]
      exact hd
    cases h.stands with
    | opened ho => exact .opened (hc.trans ho)
    | reset ho => exact .reset (hc.trans ho)
    | ended ho eof => exact .ended (hc.trans ho) (kept eof)
    | belated ho eof broke => exact .belated (hc.trans ho) (kept eof) (kept broke)

theorem Consistent.shuffle (h : tunnel.Consistent) (move : Shuffle Quiet tunnel next) :
    next.Consistent := by
  cases move with
  | step place step => exact h.step place (.of_step? step)
  | elapse => exact h.congr rfl rfl
  | call quiet => exact h.congr rfl (quiet.spares tunnel.now tunnel.context).1

theorem Consistent.shuffles (h : tunnel.Consistent)
    (moves : Relation.ReflTransGen (Shuffle Quiet) tunnel last) : last.Consistent := by
  induction moves with
  | refl => exact h
  | tail _ move ih => exact ih.shuffle move

/-- A relay at the end of its stream started to close the tunnel, and another one broke it then. -/
structure BrokenLate (tunnel : Tunnel) : Prop where
  broken : tunnel.context.broken = true
  closes : tunnel.context.closes = [⟨.destination, .orderly⟩]
  exits : ∃ closer ∈ tunnel.relays, ∃ breaker ∈ tunnel.relays, ∃ exit time time',
    closer.exit? = some (.eof, time) ∧ breaker.exit? = some (exit, time') ∧ exit.Breaks

theorem HasDecided.exit? {sort : RelayExit → Prop} (h : tunnel.HasDecided sort)
    (done : ∀ relay ∈ tunnel.relays, relay.exit?.isSome) :
    ∃ relay ∈ tunnel.relays, ∃ exit time, relay.exit? = some (exit, time) ∧ sort exit := by
  obtain ⟨relay, mem, exit, decided, holds⟩ := h
  obtain ⟨⟨found, time⟩, he⟩ := Option.isSome_iff_exists.mp (done relay mem)
  have hp := Relay.exit?_eq_some_iff.mp he
  rw [hp] at decided
  obtain rfl : found = exit := Option.some.inj decided
  exact ⟨relay, mem, found, time, he, holds⟩

theorem Consistent.finish (h : tunnel.Consistent)
    (done : ∀ relay ∈ tunnel.relays, relay.exit?.isSome) :
    (tunnel.perform .finish).context.ClosedInKind ∨ (tunnel.perform .finish).BrokenLate := by
  obtain ⟨relay, mem⟩ := List.exists_mem_of_ne_nil _ h.some_relay
  obtain ⟨⟨exit, time⟩, he⟩ := Option.isSome_iff_exists.mp (done relay mem)
  have attested := h.attested relay mem
  rw [Relay.exit?_eq_some_iff.mp he] at attested
  have closing : tunnel.context.closing = true := attested.1
  have finish (hb : tunnel.context.broken = true) :
      (tunnel.perform .finish).context = tunnel.context := if_pos hb
  cases h.stands with
  | opened hc =>
    have quiet : tunnel.context.closing = false := congrArg Closure.closing hc
    rw [quiet] at closing
    cases closing
  | reset hc =>
    have broken : tunnel.context.broken = true := congrArg Closure.broken hc
    have closes : tunnel.context.closes = _ := congrArg Closure.closes hc
    left
    rw [finish broken, Context.ClosedInKind, closes, broken]
    rfl
  | ended hc =>
    have whole : tunnel.context.broken = false := congrArg Closure.broken hc
    have closes : tunnel.context.closes = _ := congrArg Closure.closes hc
    left
    simp only [perform, Operation.effect, Context.finish, whole, Context.ClosedInKind, closes]
    rfl
  | belated hc eof broke =>
    have broken : tunnel.context.broken = true := congrArg Closure.broken hc
    right
    obtain ⟨closer, hcm, _, time, hce, rfl⟩ := eof.exit? done
    obtain ⟨breaker, hbm, exit, time', hbe, breaks⟩ := broke.exit? done
    refine ⟨?_, ?_, closer, hcm, breaker, hbm, exit, time, time', hce, hbe, breaks⟩
    · rw [finish broken]
      exact broken
    · rw [finish broken]
      exact congrArg Closure.closes hc

/-- However the steps of two relays of opposite directions in a fresh tunnel are interleaved, when
both are finished and the owner has called `finish`, both connections were closed in the way the
broken flag says, unless the tunnel was broken late. -/
theorem pair_closed_in_kind_or_broken_late {direction : Direction} {label : String} {debug : Bool}
    {timeout timeout' bufferSize bufferSize' start now now' : Nat} {script script' : List Event}
    {plan plan' : SinkPlan} (hc : first.context = .fresh label debug start)
    (hr : first.relays =
      [.begin direction timeout bufferSize (.ofScript script) (.ofPlan plan) now,
        .begin direction.opposite timeout' bufferSize' (.ofScript script') (.ofPlan plan') now'])
    (h : Relation.ReflTransGen (Shuffle Quiet) first last)
    (done : ∀ relay ∈ last.relays, relay.exit?.isSome) :
    (last.perform .finish).context.ClosedInKind ∨ (last.perform .finish).BrokenLate := by
  have opened : first.Consistent := by
    have untouched : first.context.closure = ⟨false, false, []⟩ := by rw [hc]; rfl
    refine ⟨by rw [hr]; exact List.cons_ne_nil _ _, ?_, .opened untouched⟩
    rw [hr]
    simp [Relay.begin, Phase.Attests]
  exact (opened.shuffles h).finish done

/-- Lets one relay make one step, unless it has to wait. -/
def stepAt (tunnel : Tunnel) (index : Nat) : Tunnel :=
  match tunnel.relays[index]? with
  | none => tunnel
  | some relay =>
    match relay.step? tunnel.now tunnel.context with
    | none => tunnel
    | some (after, context) => tunnel.replace index relay after context

theorem reaches_stepAt (tunnel : Tunnel) (index : Nat) :
    Reaches allowed tunnel (tunnel.stepAt index) := by
  unfold stepAt
  split
  · exact .refl
  · rename_i place
    split
    · exact .refl
    · rename_i step
      exact .tail .refl (.step place step)

theorem reaches_foldl_stepAt (order : List Nat) (tunnel : Tunnel) :
    Reaches allowed tunnel (order.foldl stepAt tunnel) := by
  induction order generalizing tunnel with
  | nil => exact .refl
  | cons index order ih => exact (reaches_stepAt tunnel index).trans (ih _)

/-- The client's stream ends at the very time at which reading from the destination fails. -/
def collision : Tunnel :=
  setUp ⟨"collision", false, 4, 2⟩ 0 ⟨.ofScript [⟨0, .endOfStream⟩], .ofPlan .unrestricted⟩
    ⟨.ofScript [⟨0, .fault .connectionReset⟩], .ofPlan .unrestricted⟩

/-- The second relay looks while the tunnel is open, and breaks it when the first one has closed
it. -/
def collided : Tunnel := [0, 0, 0, 1, 1, 1, 0, 1, 1, 1, 0].foldl stepAt collision

/-- Then the tunnel is broken, and the client's connection is neither reset nor closed in order. -/
theorem client_left_open_by_collision :
    Reaches (fun _ => False) collision collided ∧
      (∀ relay ∈ collided.relays, relay.exit?.isSome) ∧
      (collided.perform .finish).context.broken = true ∧
      (collided.perform .finish).context.closes = [⟨.destination, .orderly⟩] ∧
      ¬ (collided.perform .finish).context.ClosedInKind := by
  refine ⟨reaches_foldl_stepAt _ collision, ?_, ?_, ?_, ?_⟩ <;> decide

theorem pair_closed_in_kind_tie :
    Relation.ReflTransGen (Shuffle Quiet) tie (tie.runUntil 100) ∧
      (∀ relay ∈ (tie.runUntil 100).relays, relay.exit?.isSome) ∧
      ((tie.runUntil 100).perform .finish).context.ClosedInKind := by
  have moves : Relation.ReflTransGen (Shuffle Quiet) tie (tie.runUntil 100) :=
    (takesTurns_advance _ _ tie).reaches.shuffles
  have done : ∀ relay ∈ (tie.runUntil 100).relays, relay.exit?.isSome := by decide
  refine ⟨moves, done, ?_⟩
  rcases pair_closed_in_kind_or_broken_late rfl rfl moves done with agreed | late
  · exact agreed
  · have whole : ((tie.runUntil 100).perform .finish).context.broken = false := by decide
    rw [late.broken] at whole
    cases whole

end Tunnel

end TunnelServer
