import Mathlib.Data.List.Induction
import Mathlib.Data.List.TakeWhile
import TunnelServer.Proofs.Tunnel.Agreement
import TunnelServer.Tunnel.Wait

/-!
# What a history of calls says of a tunnel

Any calls are made on the shared state of a fresh tunnel, in any order and at any times, and tasks
begin to wait for it to close. What became of the two flags, of the connections and of the waits
can be read off the order of the calls alone, and what became of the time stamps off the calls that
note a write.
-/

namespace TunnelServer

namespace Operation

variable {stop next : Operation} {calls : List Operation}

/-- The calls that were made before the first call of this kind. -/
def before (stop : Operation) (calls : List Operation) : List Operation :=
  calls.takeWhile (· ≠ stop)

theorem mem_concat (other : next ≠ stop) : stop ∈ calls ++ [next] ↔ stop ∈ calls := by
  simp only [List.mem_append, List.mem_singleton, or_iff_left_iff_imp]
  exact fun same => absurd same.symm other

theorem before_eq_self (h : stop ∉ calls) : before stop calls = calls := by
  refine List.takeWhile_eq_self_iff.mpr fun call mem => decide_eq_true ?_
  rintro rfl
  exact h mem

theorem before_concat_of_mem (h : stop ∈ calls) :
    before stop (calls ++ [next]) = before stop calls := by
  have shorter : (calls.takeWhile (· ≠ stop)).length ≠ calls.length := by
    intro same
    have whole := (List.takeWhile_prefix (· ≠ stop)).eq_of_length same
    have kept := List.takeWhile_eq_self_iff.mp whole stop h
    simp at kept
  rw [before, List.takeWhile_append, if_neg shorter, before]

theorem before_concat_self (h : stop ∉ calls) : before stop (calls ++ [stop]) = calls := by
  have whole : calls.takeWhile (· ≠ stop) = calls := before_eq_self h
  rw [before, List.takeWhile_append, if_pos (by rw [whole]), List.takeWhile_cons_of_neg (by simp),
    List.append_nil]

theorem count_before_concat {call : Operation} (h : call ≠ stop) :
    (before stop (calls ++ [next])).count call =
      (before stop calls).count call + if next = call ∧ stop ∉ calls then 1 else 0 := by
  by_cases seen : stop ∈ calls
  · rw [before_concat_of_mem seen, if_neg (fun both => both.2 seen), Nat.add_zero]
  · by_cases same : next = stop
    · subst same
      rw [before_concat_self seen, before_eq_self seen, if_neg (fun both => h both.1.symm),
        Nat.add_zero]
    · have unseen : stop ∉ calls ++ [next] := fun mem => seen ((mem_concat same).mp mem)
      rw [before_eq_self unseen, before_eq_self seen, List.count_append, List.count_singleton]
      by_cases counted : next = call <;> simp [counted, seen]

end Operation

/-- The first call that starts to close the tunnel comes after one that breaks it. -/
def BrokenFirst (calls : List Operation) : Prop :=
  .markBroken ∈ Operation.before .shutdown calls

instance (calls : List Operation) : Decidable (BrokenFirst calls) :=
  inferInstanceAs (Decidable (_ ∈ _))

/-- What calls say of the flags and of the connections. -/
structure Closure.Follows (calls : List Operation) (closure : Closure) : Prop where
  broken : closure.broken = true ↔ .markBroken ∈ calls
  closing : closure.closing = true ↔ .shutdown ∈ calls
  /-- The destination's connection is closed once, by the first call that starts to close. -/
  destination : closure.closes.filter (·.side = .destination) =
    if .shutdown ∈ calls then
      [⟨.destination, if BrokenFirst calls then .abortive else .orderly⟩]
    else []
  reset : closure.closes.count ⟨.client, .abortive⟩ =
    if .shutdown ∈ calls ∧ BrokenFirst calls then 1 else 0
  /-- The client's connection is closed in order as often as an unbroken tunnel is finished. -/
  ended : closure.closes.count ⟨.client, .orderly⟩ =
    (Operation.before .markBroken calls).count .finish

/-- How the tunnel was closed is settled by the first call that starts to close it. -/
theorem brokenFirst_concat {calls : List Operation} {next : Operation} (h : .shutdown ∈ calls) :
    BrokenFirst (calls ++ [next]) ↔ BrokenFirst calls := by
  rw [BrokenFirst, Operation.before_concat_of_mem h, BrokenFirst]

theorem brokenFirst_concat_shutdown {calls : List Operation} (h : .shutdown ∉ calls) :
    BrokenFirst (calls ++ [.shutdown]) ↔ .markBroken ∈ calls := by
  rw [BrokenFirst, Operation.before_concat_self h]

namespace Closure.Follows

open Operation (mem_concat)

variable {calls : List Operation} {operation : Operation} {closure : Closure} {context : Context}

theorem untouched : Closure.untouched.Follows [] := by
  constructor <;> simp [Closure.untouched, Operation.before]

theorem destination_concat (h : closure.Follows calls) (other : operation ≠ .shutdown) :
    closure.closes.filter (·.side = .destination) =
      if .shutdown ∈ calls ++ [operation] then
        [⟨.destination, if BrokenFirst (calls ++ [operation]) then .abortive else .orderly⟩]
      else [] := by
  rw [h.destination]
  by_cases shut : .shutdown ∈ calls
  · simp only [mem_concat other, shut, brokenFirst_concat shut]
  · simp only [mem_concat other, shut, if_false]

theorem reset_concat (h : closure.Follows calls) (other : operation ≠ .shutdown) :
    closure.closes.count ⟨.client, .abortive⟩ =
      if .shutdown ∈ calls ++ [operation] ∧ BrokenFirst (calls ++ [operation]) then 1 else 0 := by
  rw [h.reset]
  by_cases shut : .shutdown ∈ calls
  · simp only [mem_concat other, shut, brokenFirst_concat shut]
  · simp only [mem_concat other, shut, false_and, if_false]

theorem ended_concat (h : closure.Follows calls) (other : operation ≠ .finish) :
    closure.closes.count ⟨.client, .orderly⟩ =
      (Operation.before .markBroken (calls ++ [operation])).count .finish := by
  rw [Operation.count_before_concat (by decide), if_neg (fun both => other both.1), h.ended,
    Nat.add_zero]

theorem quiet (h : context.closure.Follows calls) (hq : Tunnel.Quiet operation) (now : Nat) :
    (operation.effect now context).closure.Follows (calls ++ [operation]) := by
  rw [(hq.spares now context).1]
  obtain ⟨unbroken, unclosed, unfinished⟩ := hq
  exact ⟨h.broken.trans (mem_concat unbroken).symm, h.closing.trans (mem_concat unclosed).symm,
    h.destination_concat unclosed, h.reset_concat unclosed, h.ended_concat unfinished⟩

theorem markBroken (h : context.closure.Follows calls) :
    context.markBroken.closure.Follows (calls ++ [.markBroken]) where
  broken := by simp [Context.closure, Context.markBroken]
  closing := h.closing.trans (mem_concat (by decide)).symm
  destination := h.destination_concat (by decide)
  reset := h.reset_concat (by decide)
  ended := h.ended_concat (by decide)

theorem finish (h : context.closure.Follows calls) :
    context.finish.closure.Follows (calls ++ [.finish]) := by
  have closes : context.finish.closes = context.closes ++
      if .markBroken ∈ calls then [] else [⟨.client, .orderly⟩] := by
    by_cases broken : context.broken = true
    · rw [Context.finish, if_pos broken, if_pos (h.broken.mp broken), List.append_nil]
    · rw [Context.finish, if_neg broken, if_neg (fun mem => broken (h.broken.mpr mem))]
  have flags : context.finish.broken = context.broken ∧
      context.finish.closing = context.closing := by
    unfold Context.finish
    split <;> exact ⟨rfl, rfl⟩
  refine ⟨?_, ?_, ?_, ?_, ?_⟩
  · show context.finish.broken = true ↔ _
    rw [flags.1, mem_concat (by decide)]
    exact h.broken
  · show context.finish.closing = true ↔ _
    rw [flags.2, mem_concat (by decide)]
    exact h.closing
  · show context.finish.closes.filter _ = _
    rw [← h.destination_concat (by decide), closes, List.filter_append]
    split <;> simp [Context.closure]
  · show context.finish.closes.count _ = _
    rw [← h.reset_concat (by decide), closes, List.count_append]
    split <;> simp [Context.closure]
  · show context.finish.closes.count _ = _
    rw [Operation.count_before_concat (by decide), ← h.ended, closes, List.count_append]
    split <;> simp_all [Context.closure]

theorem shutdown (h : context.closure.Follows calls) (now : Nat) :
    (context.shutdown now).closure.Follows (calls ++ [.shutdown]) := by
  by_cases shut : .shutdown ∈ calls
  · have closing : context.closing = true := h.closing.mpr shut
    rw [Context.closure_shutdown_of_closing now closing]
    refine ⟨h.broken.trans (mem_concat (by decide)).symm, ?_, ?_, ?_, h.ended_concat (by decide)⟩
    · simp [h.closing, shut]
    · rw [h.destination]
      simp [brokenFirst_concat shut, shut]
    · rw [h.reset]
      simp [brokenFirst_concat shut, shut]
  · have opened : ¬ context.closing = true := fun closing => shut (h.closing.mp closing)
    have first : (context.shutdown now).closes = context.closes ++ context.closeCalls := by
      rw [Context.shutdown, if_neg opened]
    have both : context.closeCalls =
        if .markBroken ∈ calls then [⟨.destination, .abortive⟩, ⟨.client, .abortive⟩]
        else [⟨.destination, .orderly⟩] := by
      simp only [Context.closeCalls, show context.broken = true ↔ _ from h.broken]
    have mem : Operation.shutdown ∈ calls ++ [.shutdown] := by simp
    refine ⟨?_, ?_, ?_, ?_, ?_⟩
    · show (context.shutdown now).broken = true ↔ _
      rw [Context.broken_shutdown, mem_concat (by decide)]
      exact h.broken
    · simp [Context.closure, Context.closing_shutdown]
    · have none : context.closes.filter (·.side = .destination) = [] := by
        rw [show context.closes.filter _ = _ from h.destination, if_neg shut]
      show (context.shutdown now).closes.filter _ = _
      rw [first, List.filter_append, none, both, if_pos mem]
      by_cases broken : .markBroken ∈ calls <;>
        simp [brokenFirst_concat_shutdown shut, broken]
    · have none : context.closes.count ⟨.client, .abortive⟩ = 0 := by
        rw [show context.closes.count _ = _ from h.reset, if_neg (fun both => shut both.1)]
      show (context.shutdown now).closes.count _ = _
      rw [first, List.count_append, none, both]
      by_cases broken : .markBroken ∈ calls <;>
        simp [brokenFirst_concat_shutdown shut, broken]
    · show (context.shutdown now).closes.count _ = _
      rw [← h.ended_concat (by decide), first, List.count_append, both]
      split <;> rfl

theorem step (h : context.closure.Follows calls) (now : Nat) (operation : Operation) :
    (operation.effect now context).closure.Follows (calls ++ [operation]) := by
  cases operation with
  | markBroken => exact h.markBroken
  | shutdown => exact h.shutdown now
  | finish => exact h.finish
  | recordWrite | wroteWithin | isBroken | isClosing | hasClosed | reportBuffers =>
    exact h.quiet ⟨by simp, by simp, by simp⟩ now

end Closure.Follows

theorem Wait.isSome_ended_look (wait : Wait) (now : Nat) (context : Context) :
    (wait.look now context).ended.isSome ↔ wait.ended.isSome ∨ context.closing = true := by
  unfold Wait.look
  cases ended : wait.ended <;> cases closing : context.closing <;> simp [ended]

@[simp] theorem Wait.begun_look (wait : Wait) (now : Nat) (context : Context) :
    (wait.look now context).begun = wait.begun := by
  unfold Wait.look
  split <;> rfl

namespace Attended

variable {attended : Attended} {acts : List TimedAct}

/-- The calls of a history. -/
def operations (acts : List TimedAct) : List Operation := acts.filterMap TimedAct.operation?

/-- When the waits of a history began. -/
def beginnings (acts : List TimedAct) : List Nat := acts.filterMap TimedAct.begun?

theorem operations_concat_wait (acts : List TimedAct) (now : Nat) :
    operations (acts ++ [⟨now, .wait⟩]) = operations acts := by
  simp [operations, TimedAct.operation?]

theorem operations_concat_call (acts : List TimedAct) (now : Nat) (operation : Operation) :
    operations (acts ++ [⟨now, .call operation⟩]) = operations acts ++ [operation] := by
  simp [operations, TimedAct.operation?]

theorem beginnings_concat (acts : List TimedAct) (next : TimedAct) :
    beginnings (acts ++ [next]) = beginnings acts ++ next.begun?.toList := by
  cases begun : next.begun? <;> simp [beginnings, begun]

@[simp] theorem context_call (attended : Attended) (now : Nat) (operation : Operation) :
    (attended.act now (.call operation)).context = operation.effect now attended.context := by
  simp only [act]
  split <;> rfl

theorem act_shutdown_of_closing (h : attended.context.closing = true) (now : Nat) :
    attended.act now (.call .shutdown) = attended := by
  have kept : attended.context.shutdown now = attended.context := if_pos h
  have idle : ¬ Operation.shutdown.answer? now attended.context = some true := by
    simp [Operation.answer?, h]
  simp only [act, idle, and_false, if_false, Operation.effect, kept]

theorem act_shutdown_of_open (h : ¬ attended.context.closing = true) (now : Nat) :
    attended.act now (.call .shutdown) =
      ⟨attended.context.shutdown now,
        attended.waits.map (Wait.look now (attended.context.shutdown now))⟩ := by
  have answer : Operation.shutdown.answer? now attended.context = some true := by
    simp [Operation.answer?, h]
  simp only [act, answer, and_self, if_true, Operation.effect]

/-- What a history says of the shared state and of the waits. -/
structure Follows (acts : List TimedAct) (attended : Attended) : Prop where
  closure : attended.context.closure.Follows (operations acts)
  begun : attended.waits.map (·.begun) = beginnings acts
  ended : ∀ wait ∈ attended.waits,
    (wait.ended.isSome ↔ .shutdown ∈ operations acts)

theorem Follows.wait (h : attended.Follows acts) (now : Nat) :
    (attended.act now .wait).Follows (acts ++ [⟨now, .wait⟩]) := by
  have same := operations_concat_wait acts now
  refine ⟨same ▸ h.closure, ?_, ?_⟩
  · rw [beginnings_concat, ← h.begun]
    simp [act, TimedAct.begun?]
  · intro wait mem
    rw [same]
    rcases List.mem_append.mp mem with mem | mem
    · exact h.ended wait mem
    · obtain rfl := List.mem_singleton.mp mem
      rw [Wait.isSome_ended_look, ← h.closure.closing]
      simp [Context.closure]

theorem Follows.call (h : attended.Follows acts) (now : Nat) (operation : Operation) :
    (attended.act now (.call operation)).Follows (acts ++ [⟨now, .call operation⟩]) := by
  have more := operations_concat_call acts now operation
  refine ⟨?_, ?_, ?_⟩
  · rw [context_call, more]
    exact h.closure.step now operation
  · rw [beginnings_concat, ← h.begun]
    simp only [act]
    split <;> simp [TimedAct.begun?]
  · rw [more]
    by_cases starts : operation = .shutdown
    · subst starts
      have shut : Operation.shutdown ∈ operations acts ++ [.shutdown] := by simp
      simp only [shut, iff_true]
      by_cases closing : attended.context.closing = true
      · rw [act_shutdown_of_closing closing]
        exact fun wait mem => (h.ended wait mem).mpr (h.closure.closing.mp closing)
      · -- This is the call that wakes those who wait.
        rw [act_shutdown_of_open closing]
        simp only [List.mem_map]
        rintro - ⟨wait, -, rfl⟩
        rw [Wait.isSome_ended_look]
        exact .inr (attended.context.closing_shutdown now)
    · intro wait mem
      rw [Operation.mem_concat starts]
      simp only [act, starts, false_and, if_false] at mem
      exact h.ended wait mem

theorem follows_run (label : String) (debug : Bool) (start : Nat) (acts : List TimedAct) :
    ((Attended.fresh label debug start).run acts).Follows acts := by
  induction acts using List.reverseRecOn with
  | nil => exact ⟨.untouched, rfl, by simp [fresh]⟩
  | append_singleton acts next ih =>
    rw [run_concat]
    obtain ⟨now, call | _⟩ := next
    · exact ih.call now call
    · exact ih.wait now

/-! ## Time stamps and flags -/

/-- The shared state with nothing broken or closed. -/
def unflagged (attended : Attended) : Attended :=
  ⟨{ attended.context with broken := false, closedAt := none, closes := [] }, []⟩

/-- The shared state with no write noted. -/
def unstamped (attended : Attended) : Attended :=
  ⟨{ attended.context with toClient := 0, toDestination := 0 }, attended.waits⟩

theorem unflagged_act (attended : Attended) (now : Nat) (next : Act) :
    (attended.act now next).unflagged =
      if TimedAct.notesWrite ⟨now, next⟩ then attended.unflagged.act now next
      else attended.unflagged := by
  cases next with
  | wait => rfl
  | call operation =>
    simp only [unflagged, context_call]
    cases operation with
    | recordWrite direction => cases direction <;> rfl
    | shutdown =>
      simp only [Operation.effect, Context.shutdown]
      split <;> rfl
    | finish =>
      simp only [Operation.effect, Context.finish]
      split <;> rfl
    | _ => rfl

theorem unstamped_act (attended : Attended) (now : Nat) (next : Act) :
    (attended.act now next).unstamped =
      if TimedAct.notesWrite ⟨now, next⟩ then attended.unstamped
      else attended.unstamped.act now next := by
  cases next with
  | wait => rfl
  | call operation =>
    cases operation with
    | recordWrite direction => cases direction <;> rfl
    | shutdown =>
      by_cases closing : attended.context.closing = true
      · have closing' : attended.unstamped.context.closing = true := closing
        rw [act_shutdown_of_closing closing, act_shutdown_of_closing closing']
        rfl
      · have opened : ¬ attended.unstamped.context.closing = true := closing
        have same : attended.unstamped.context.shutdown now =
            { attended.context.shutdown now with toClient := 0, toDestination := 0 } := by
          simp only [Context.shutdown, closing, opened]
          rfl
        rw [act_shutdown_of_open closing, act_shutdown_of_open opened, same]
        rfl
    | finish =>
      have same : attended.unstamped.context.finish =
          { attended.context.finish with toClient := 0, toDestination := 0 } := by
        by_cases broken : attended.context.broken = true <;>
          simp [Context.finish, unstamped, broken]
      exact congrArg (Attended.mk · attended.waits) same.symm
    | _ => rfl

theorem run_filter_notesWrite (label : String) (debug : Bool) (start : Nat)
    (acts : List TimedAct) :
    (fresh label debug start).run (acts.filter TimedAct.notesWrite) =
      ((fresh label debug start).run acts).unflagged := by
  induction acts using List.reverseRecOn with
  | nil => rfl
  | append_singleton acts next ih =>
    rw [run_concat, unflagged_act, ← ih, List.filter_append]
    by_cases notes : next.notesWrite = true
    · rw [if_pos notes, List.filter_cons_of_pos notes, List.filter_nil, run_concat]
    · rw [if_neg notes, List.filter_cons_of_neg notes, List.filter_nil, List.append_nil]

theorem run_filter_not_notesWrite (label : String) (debug : Bool) (start : Nat)
    (acts : List TimedAct) :
    (fresh label debug start).run (acts.filter (!·.notesWrite)) =
      ((fresh label debug start).run acts).unstamped := by
  induction acts using List.reverseRecOn with
  | nil => rfl
  | append_singleton acts next ih =>
    rw [run_concat, unstamped_act, ← ih, List.filter_append]
    by_cases notes : next.notesWrite = true
    · rw [if_pos notes, List.filter_cons_of_neg (by simp [notes]), List.filter_nil,
        List.append_nil]
    · rw [if_neg notes, List.filter_cons_of_pos (by simp [notes]), List.filter_nil, run_concat]

theorem grows_run (attended : Attended) (acts : List TimedAct) :
    attended.context.closure.Grows (attended.run acts).context.closure := by
  induction acts using List.reverseRecOn with
  | nil => exact .refl _
  | append_singleton acts next ih =>
    rw [run_concat]
    obtain ⟨now, call | _⟩ := next
    · rw [context_call]
      have more := call.grows_effect now (attended.run acts).context
      exact ⟨fun h => more.closing (ih.closing h), fun h => more.broken (ih.broken h)⟩
    · exact ih

/-- Whatever calls are made on the shared state of a fresh tunnel, in any order and at any times,
the following holds after them. The call that starts to close the tunnel answers yes just the first
time, and it does nothing from then on. The destination's connection was closed once if there was
such a call and not at all if there was none, by a reset if the tunnel was broken before the first
one; in that case the client's connection was reset once with it. Otherwise such a call closes no
connection of the client; the call that finishes closes it in order if the tunnel is not broken by
then. Neither flag ever goes back. Each wait is over if there was a call that starts to close. What
the time stamps are depends on the noted writes alone, and everything else on all that is none. -/
theorem history_decides (label : String) (debug : Bool) (start : Nat) (acts : List TimedAct) :
    let last := (fresh label debug start).run acts
    let calls := operations acts
    (∀ now, Operation.shutdown.answer? now last.context = some (decide (.shutdown ∉ calls))) ∧
    (.shutdown ∈ calls → ∀ now, last.act now (.call .shutdown) = last) ∧
    last.context.closes.filter (·.side = .destination) =
      (if .shutdown ∈ calls then
        [⟨.destination, if BrokenFirst calls then .abortive else .orderly⟩]
      else []) ∧
    last.context.closes.count ⟨.client, .abortive⟩ =
      (if .shutdown ∈ calls ∧ BrokenFirst calls then 1 else 0) ∧
    (∀ now, (last.act now (.call .shutdown)).context.closes.filter (·.side = .client) =
      last.context.closes.filter (·.side = .client) ++
        if .shutdown ∉ calls ∧ .markBroken ∈ calls then [⟨.client, .abortive⟩] else []) ∧
    (∀ now, (last.act now (.call .finish)).context.closes = last.context.closes ++
      if .markBroken ∈ calls then [] else [⟨.client, .orderly⟩]) ∧
    last.context.closes.count ⟨.client, .orderly⟩ =
      (Operation.before .markBroken calls).count .finish ∧
    (last.context.broken = true ↔ .markBroken ∈ calls) ∧
    (last.context.closing = true ↔ .shutdown ∈ calls) ∧
    (∀ later, last.context.closure.Grows (last.run later).context.closure) ∧
    last.waits.map (·.begun) = beginnings acts ∧
    (∀ wait ∈ last.waits, (wait.ended.isSome ↔ .shutdown ∈ calls)) ∧
    (∀ now, Operation.hasClosed.answer? now last.context = some (decide (.shutdown ∈ calls))) ∧
    (fresh label debug start).run (acts.filter TimedAct.notesWrite) = last.unflagged ∧
    (∀ now direction window, last.unflagged.context.wroteWithin now direction window =
      last.context.wroteWithin now direction window) ∧
    (fresh label debug start).run (acts.filter (!·.notesWrite)) = last.unstamped := by
  intro last calls
  have follows : last.Follows acts := follows_run label debug start acts
  have closing : last.context.closing = decide (.shutdown ∈ calls) :=
    Bool.eq_iff_iff.mpr (follows.closure.closing.trans decide_eq_true_iff.symm)
  have broken : last.context.broken = decide (.markBroken ∈ calls) :=
    Bool.eq_iff_iff.mpr (follows.closure.broken.trans decide_eq_true_iff.symm)
  refine ⟨fun now => ?_, fun shut now => ?_, follows.closure.destination, follows.closure.reset,
    fun now => ?_, fun now => ?_, follows.closure.ended, follows.closure.broken,
    follows.closure.closing, last.grows_run, follows.begun, follows.ended, fun now => ?_,
    run_filter_notesWrite label debug start acts, fun now direction window => ?_,
    run_filter_not_notesWrite label debug start acts⟩
  · simp [Operation.answer?, closing]
  · exact act_shutdown_of_closing (follows.closure.closing.mpr shut) now
  · rw [context_call, Operation.effect, Context.shutdown, closing]
    by_cases shut : .shutdown ∈ calls
    · simp [shut]
    · by_cases first : .markBroken ∈ calls <;>
        simp [shut, first, Context.closeCalls, broken]
  · rw [context_call, Operation.effect, Context.finish, broken]
    by_cases first : .markBroken ∈ calls <;> simp [first]
  · exact congrArg some closing
  · cases direction <;> rfl

/-- The tunnel is finished twice, once before and once after it was broken and closed. -/
def restless : List TimedAct :=
  [⟨1, .call (.recordWrite .clientToDestination)⟩, ⟨2, .wait⟩, ⟨3, .call .finish⟩,
    ⟨4, .call .markBroken⟩, ⟨5, .call .shutdown⟩, ⟨6, .call .shutdown⟩, ⟨7, .wait⟩,
    ⟨8, .call .finish⟩]

theorem history_decides_restless :
    .shutdown ∈ operations restless ∧
      (∀ now, ((fresh "restless" false 0).run restless).act now (.call .shutdown) =
        (fresh "restless" false 0).run restless) ∧
      ((fresh "restless" false 0).run restless).context.closes =
        [⟨.client, .orderly⟩, ⟨.destination, .abortive⟩, ⟨.client, .abortive⟩] ∧
      ((fresh "restless" false 0).run restless).waits = [⟨2, some 5⟩, ⟨7, some 7⟩] := by
  have shut : .shutdown ∈ operations restless := by decide
  have still := (history_decides "restless" false 0 restless).2.1
  exact ⟨shut, still shut, by decide, by decide⟩

end Attended

end TunnelServer
