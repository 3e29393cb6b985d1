import Mathlib.Data.List.Induction
import TunnelServer.Proofs.Tunnel.Verdict

/-!
# Whether a direction wrote lately

Of all the writes of a direction only the time stamp of the last one is kept. Since the clock does
not go back, the last write lies within a window if any of them does, so the time stamp answers for
the whole history. It counts from one, which tells a write at the very start from none at all.
-/

namespace TunnelServer

namespace TimedOperation

/-- The call notes a write of this direction. -/
def Writes (direction : Direction) (call : TimedOperation) : Prop :=
  call.operation = .recordWrite direction

instance (direction : Direction) : DecidablePred (Writes direction) :=
  fun call => inferInstanceAs (Decidable (call.operation = _))

/-- The calls were made in this order between two times, by a clock that does not go back. -/
structure InOrder (start now : Nat) (calls : List TimedOperation) : Prop where
  begun : start ≤ now
  sorted : calls.Pairwise (·.time ≤ ·.time)
  within : ∀ call ∈ calls, start ≤ call.time ∧ call.time ≤ now

/-- When a direction wrote, the last write first. -/
def writeTimes (direction : Direction) (calls : List TimedOperation) : List Nat :=
  ((calls.filter (Writes direction ·)).map time).reverse

variable {direction : Direction} {calls : List TimedOperation} {start now moment : Nat}

theorem writeTimes_concat (direction : Direction) (calls : List TimedOperation)
    (call : TimedOperation) : writeTimes direction (calls ++ [call]) =
      if call.Writes direction then call.time :: writeTimes direction calls
      else writeTimes direction calls := by
  by_cases writes : call.Writes direction
  · simp [writeTimes, List.filter_append, writes]
  · simp [writeTimes, List.filter_append, writes]

theorem mem_writeTimes : moment ∈ writeTimes direction calls ↔
    ∃ call ∈ calls, call.Writes direction ∧ call.time = moment := by
  simp [writeTimes, and_assoc]

theorem InOrder.sorted_writeTimes (h : InOrder start now calls) (direction : Direction) :
    (writeTimes direction calls).Pairwise (· ≥ ·) := by
  apply List.pairwise_reverse.mpr
  apply List.pairwise_map.mpr
  exact h.sorted.filter _

end TimedOperation

namespace Context

open TimedOperation (Writes InOrder writeTimes)

variable {context : Context} {direction : Direction} {calls : List TimedOperation}
  {start now window : Nat} {noted : List Nat}

theorem start_after (context : Context) (calls : List TimedOperation) :
    (context.after calls).start = context.start := by
  induction calls using List.reverseRecOn with
  | nil => rfl
  | append_singleton calls call ih =>
    rw [after_append, after_cons, after_nil, Operation.start_effect]
    exact ih

theorem lastWrite_after (context : Context) (direction : Direction)
    (calls : List TimedOperation) : (context.after calls).lastWrite direction =
      ((writeTimes direction calls).head?.map context.stamp).getD (context.lastWrite direction) := by
  induction calls using List.reverseRecOn with
  | nil => rfl
  | append_singleton calls call ih =>
    rw [after_append, after_cons, after_nil, TimedOperation.writeTimes_concat]
    by_cases writes : call.Writes direction
    · have newest := (context.after calls).lastWrite_recordWrite call.time direction direction
      rw [if_pos rfl, stamp_congr (context.start_after calls)] at newest
      rw [if_pos writes, show call.operation = _ from writes]
      exact newest
    · rw [if_neg writes, ← ih]
      exact Operation.lastWrite_effect_of_ne writes

theorem heard_after (h : InOrder start now calls) (label : String) (debug : Bool)
    (direction : Direction) : ((fresh label debug start).after calls).Heard direction now
      (writeTimes direction calls) where
  begun := by
    rw [start_after]
    exact h.begun
  sorted := h.sorted_writeTimes direction
  within := by
    intro time mem
    obtain ⟨call, made, -, rfl⟩ := TimedOperation.mem_writeTimes.mp mem
    rw [start_after]
    exact h.within call made
  newest := by
    rw [lastWrite_after]
    have none : (fresh label debug start).lastWrite direction = 0 := by cases direction <;> rfl
    have stamps : ((fresh label debug start).after calls).stamp = (fresh label debug start).stamp :=
      funext (stamp_congr (start_after _ calls))
    rw [none, stamps]

/-- A direction wrote within a window if a write was noted less than the window ago. -/
theorem Heard.wroteWithin_iff (h : context.Heard direction now noted)
    (fits : now - context.start + 1 < UInt64.size) (small : window < UInt64.size) :
    context.wroteWithin now direction window = true ↔
      ∃ time ∈ noted, time ≤ now ∧ now - time < window := by
  constructor
  · intro busy
    obtain ⟨time, mem, past, near⟩ := h.exists_lt busy fits
    exact ⟨time, mem, past, by omega⟩
  · rintro ⟨time, mem, past, near⟩
    exact h.wroteWithin mem (by omega) fits small

theorem Heard.lastWrite_le (h : context.Heard direction now noted)
    (fits : now - context.start + 1 < UInt64.size) :
    (context.lastWrite direction).toNat ≤ (context.stamp now).toNat := by
  rw [h.newest]
  cases noted with
  | nil => exact Nat.zero_le _
  | cons last older =>
    obtain ⟨began, past⟩ := h.within last List.mem_cons_self
    show (context.stamp last).toNat ≤ _
    rw [toNat_stamp fits, toNat_stamp (by omega)]
    omega

theorem wroteWithin_congr {others : List TimedOperation}
    (same : others.filter (Writes direction ·) = calls.filter (Writes direction ·)) :
    (context.after others).wroteWithin now direction window =
      (context.after calls).wroteWithin now direction window := by
  have times : writeTimes direction others = writeTimes direction calls := by
    rw [writeTimes, same, writeTimes]
  have stamps : (context.after others).stamp now = (context.after calls).stamp now := by
    rw [stamp_congr (context.start_after others), stamp_congr (context.start_after calls)]
  rw [wroteWithin, lastWrite_after, times, stamps, ← lastWrite_after, ← wroteWithin]

end Context

open TimedOperation (Writes InOrder)

/-- After any calls on the shared state of a fresh tunnel, a direction is said to have written within
a window exactly if one of the calls noted a write of it less than the window ago, in milliseconds
since the tunnel was set up. No other call has a part in the answer, a window of nothing is never
met, and every number on the way to the answer is what it is without a bound: the present time
stamp, those of the calls, their difference and the window. The clock must show less than `2 ^ 64 - 1`
milliseconds since the start, which is half a billion years. -/
theorem activity_window_exact (label : String) (debug : Bool) {start now : Nat}
    {calls : List TimedOperation} (order : InOrder start now calls)
    (fits : now - start + 1 < UInt64.size) (direction : Direction) :
    let context := (Context.fresh label debug start).after calls
    (∀ window < UInt64.size, context.wroteWithin now direction window = true ↔
      ∃ call ∈ calls, call.operation = .recordWrite direction ∧ call.time ≤ now ∧
        now - call.time < window) ∧
    (∀ others : List TimedOperation,
      others.filter (Writes direction ·) = calls.filter (Writes direction ·) →
      ∀ window, ((Context.fresh label debug start).after others).wroteWithin now direction window =
        context.wroteWithin now direction window) ∧
    context.wroteWithin now direction 0 = false ∧
    start + (context.stamp now).toNat = now + 1 ∧
    (∀ call ∈ calls, start + (context.stamp call.time).toNat = call.time + 1) ∧
    (context.lastWrite direction).toNat ≤ (context.stamp now).toNat ∧
    (Context.elapsed (context.stamp now) (context.lastWrite direction)).toNat =
      (context.stamp now).toNat - (context.lastWrite direction).toNat ∧
    ∀ window < UInt64.size, (UInt64.ofNat window).toNat = window := by
  intro context
  have began : context.start = start := Context.start_after _ calls
  have heard := Context.heard_after order label debug direction
  have fits' : now - context.start + 1 < UInt64.size := began.symm ▸ fits
  have stamp_eq {time : Nat} (after : start ≤ time) (past : time ≤ now) :
      start + (context.stamp time).toNat = time + 1 := by
    rw [Context.toNat_stamp (by omega), began]
    omega
  refine ⟨fun window small => ?_, fun others same window => Context.wroteWithin_congr same, ?_,
    stamp_eq order.begun (Nat.le_refl now), fun call made => ?_, heard.lastWrite_le fits',
    Context.toNat_elapsed, fun window small => UInt64.toNat_ofNat_of_lt' small⟩
  · rw [heard.wroteWithin_iff fits' small]
    constructor
    · rintro ⟨time, mem, past, near⟩
      obtain ⟨call, made, writes, rfl⟩ := TimedOperation.mem_writeTimes.mp mem
      exact ⟨call, made, writes, past, near⟩
    · rintro ⟨call, made, writes, past, near⟩
      exact ⟨call.time, TimedOperation.mem_writeTimes.mpr ⟨call, made, writes, rfl⟩, past, near⟩
  · cases busy : context.wroteWithin now direction 0 with
    | false => rfl
    | true => exact absurd (Context.window_pos_of_wroteWithin busy) (Nat.lt_irrefl 0)
  · obtain ⟨after, past⟩ := order.within call made
    exact stamp_eq after past

/-- Both directions write, one of them at the very start. -/
def earlyAndLate : List TimedOperation :=
  [⟨5, .recordWrite .clientToDestination⟩, ⟨9, .recordWrite .destinationToClient⟩, ⟨10, .shutdown⟩]

theorem activity_window_exact_earlyAndLate :
    let context := (Context.fresh "early and late" false 5).after earlyAndLate
    InOrder 5 12 earlyAndLate ∧ 12 - 5 + 1 < UInt64.size ∧
      context.wroteWithin 12 .clientToDestination 8 = true ∧
      context.wroteWithin 12 .clientToDestination (UInt64.size - 1) = true ∧
      ¬ context.wroteWithin 12 .clientToDestination 7 = true ∧
      context.wroteWithin 12 .destinationToClient 4 = true := by
  intro context
  have order : InOrder 5 12 earlyAndLate := ⟨by decide, by decide, by decide⟩
  have fits : 12 - 5 + 1 < UInt64.size := by decide
  obtain ⟨fromClient, -⟩ :=
    activity_window_exact "early and late" false order fits .clientToDestination
  obtain ⟨toClient, -⟩ :=
    activity_window_exact "early and late" false order fits .destinationToClient
  have first : (⟨5, .recordWrite .clientToDestination⟩ : TimedOperation) ∈ earlyAndLate :=
    List.mem_cons_self
  have second : (⟨9, .recordWrite .destinationToClient⟩ : TimedOperation) ∈ earlyAndLate :=
    List.mem_cons_of_mem _ List.mem_cons_self
  refine ⟨order, fits, (fromClient 8 (by decide)).mpr ?_,
    (fromClient (UInt64.size - 1) (by decide)).mpr ?_, ?_, (toClient 4 (by decide)).mpr ?_⟩
  · exact ⟨_, first, rfl, by decide, by decide⟩
  · exact ⟨_, first, rfl, by decide, by decide⟩
  · rw [fromClient 7 (by decide)]
    simp [earlyAndLate]
  · exact ⟨_, second, rfl, by decide, by decide⟩

end TunnelServer
