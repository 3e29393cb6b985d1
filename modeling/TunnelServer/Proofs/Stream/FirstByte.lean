import TunnelServer.Stream.Sink

/-!
# The first byte

A sink answers the offer of a first byte at once, after a wait, or never; if it takes the byte, the
flush after it is answered in the same way. When the answers come is a matter of the plan alone.
-/

namespace TunnelServer

namespace SinkPlan

/-- When a new sink with this plan answers the offer of a first byte, if it ever does. -/
def respondsAt (plan : SinkPlan) (now : Nat) : Option Nat :=
  match (Sink.ofPlan plan).offer now 1 with
  | .pending release => release
  | _ => some now

/-- When it has answered the offer and, if it takes the byte, the flush after it. -/
def answersAt (plan : SinkPlan) (now : Nat) : Option Nat :=
  (plan.respondsAt now).bind fun time =>
    match (Sink.ofPlan plan).offer time 1 with
    | .accepts (_ + 1) => (plan.flush.nth 0).due?.map (max time)
    | _ => some time

/-- When a first byte that is offered at a time is taken and flushed, if it is. -/
def takesAt (plan : SinkPlan) (now : Nat) : Nat := (plan.answersAt now).getD now

/-- A sink with this plan takes a first byte, at once or after a wait, and flushes it. -/
structure Welcomes (plan : SinkPlan) : Prop where
  sound : ∀ fault, plan.fault = some fault → 0 < fault.after
  room : plan.capacity ≠ some 0
  moves : ∀ stall ∈ plan.stalls, 0 < stall.after ∨ stall.release.isSome
  portion : plan.portion ≠ some 0
  flush : ∃ due, plan.flush.nth 0 = .succeeds due

end SinkPlan

namespace Sink

variable {plan : SinkPlan} {now release total length : Nat}

theorem offerStalls_released (h : offerStalls plan total now length = .pending (some release)) :
    ∃ count, offerStalls plan total release length = .accepts count := by
  unfold offerStalls at h ⊢
  cases hr : releaseAt plan.stalls total with
  | none => simp [hr] at h
  | some time =>
    simp only [hr] at h ⊢
    split at h
    · cases h
      rw [if_neg (Nat.lt_irrefl _)]
      exact ⟨_, rfl⟩
    · simp [offerPortion] at h

theorem offerCapacity_released
    (h : offerCapacity plan total now length = .pending (some release)) :
    ∃ count, offerCapacity plan total release length = .accepts count := by
  unfold offerCapacity at h ⊢
  cases hc : plan.capacity with
  | none =>
    simp only [hc] at h ⊢
    exact offerStalls_released h
  | some limit =>
    simp only [hc] at h ⊢
    split at h
    · cases h
    · rename_i room
      rw [if_neg room]
      exact offerStalls_released h

theorem offer_released {sink : Sink} (h : sink.offer now length = .pending (some release)) :
    ∃ count, sink.offer release length = .accepts count := by
  unfold offer at h ⊢
  cases hf : sink.plan.fault with
  | none =>
    simp only [hf] at h ⊢
    exact offerCapacity_released h
  | some fault =>
    simp only [hf] at h ⊢
    split at h
    · cases h
    · rename_i sound
      rw [if_neg sound]
      exact offerCapacity_released h

theorem roomBelow_one {limit : Nat} (h : 0 < limit) : roomBelow limit 0 1 = 1 := by
  rw [roomBelow]
  omega

theorem roomBeforeStalls_one (stalls : List SinkStall) : roomBeforeStalls stalls 0 1 = 1 := by
  unfold roomBeforeStalls
  induction stalls with
  | nil => rfl
  | cons stall stalls ih =>
    rw [List.foldr_cons, ih]
    split
    case isTrue later => exact roomBelow_one later
    case isFalse => rfl

theorem exists_releaseAt {stalls : List SinkStall}
    (h : ∀ stall ∈ stalls, 0 < stall.after ∨ stall.release.isSome) :
    ∃ time, releaseAt stalls 0 = some time := by
  unfold releaseAt
  induction stalls with
  | nil => exact ⟨0, rfl⟩
  | cons stall stalls ih =>
    obtain ⟨here, others⟩ := List.forall_mem_cons.mp h
    obtain ⟨time, ht⟩ := ih others
    rw [List.foldr_cons, ht]
    split
    · exact ⟨time, rfl⟩
    · rename_i reached
      obtain ⟨release, hr⟩ := Option.isSome_iff_exists.mp (here.resolve_left reached)
      exact ⟨max release time, by rw [hr]; rfl⟩

theorem offerPortion_one (h : plan.portion ≠ some 0) : offerPortion plan 1 = .accepts 1 := by
  unfold offerPortion
  cases hp : plan.portion with
  | none => rfl
  | some most =>
    have positive : most ≠ 0 := fun he => h (he ▸ hp)
    exact congrArg Offer.accepts (Nat.min_eq_left (Nat.pos_of_ne_zero positive))

/-- Only a stall can keep a sink from taking a first byte at once. -/
theorem offer_eq_offerStalls (hw : plan.Welcomes) (now : Nat) :
    (ofPlan plan).offer now 1 = offerStalls plan 0 now 1 := by
  have capacity : offerCapacity plan 0 now 1 = offerStalls plan 0 now 1 := by
    unfold offerCapacity
    cases hc : plan.capacity with
    | none => rfl
    | some limit =>
      have positive : 0 < limit := Nat.pos_of_ne_zero fun he => hw.room (he ▸ hc)
      simp only [roomBelow_one positive, if_neg (Nat.not_le.mpr positive)]
  cases hf : plan.fault with
  | none => simp only [offer, ofPlan, hf, capacity]
  | some fault =>
    have positive := hw.sound fault hf
    simp only [offer, ofPlan, hf, if_neg (Nat.not_le.mpr positive), roomBelow_one positive, capacity]

end Sink

namespace SinkPlan

variable {plan : SinkPlan} {now time : Nat}

theorem le_of_respondsAt (h : plan.respondsAt now = some time) : now ≤ time := by
  unfold respondsAt at h
  split at h
  · rename_i release waits
    rw [h] at waits
    exact Nat.le_of_lt (Sink.lt_of_offer_pending waits)
  · exact Nat.le_of_eq (Option.some.inj h)

theorem not_pending_of_respondsAt (h : plan.respondsAt now = some time) (release : Option Nat) :
    (Sink.ofPlan plan).offer time 1 ≠ .pending release := by
  intro waits
  unfold respondsAt at h
  split at h
  · rename_i pending
    obtain ⟨count, accepted⟩ := Sink.offer_released (pending.trans (congrArg _ h))
    cases waits.symm.trans accepted
  · rename_i answered
    cases h
    exact answered release waits

theorem le_of_answersAt (h : plan.answersAt now = some time) : now ≤ time := by
  obtain ⟨told, responds, answers⟩ := Option.bind_eq_some_iff.mp h
  have begun := le_of_respondsAt responds
  split at answers
  · obtain ⟨due, -, rfl⟩ := Option.map_eq_some_iff.mp answers
    exact Nat.le_trans begun (Nat.le_max_left ..)
  · cases answers
    exact begun

theorem le_takesAt (plan : SinkPlan) (now : Nat) : now ≤ plan.takesAt now := by
  unfold takesAt
  cases h : plan.answersAt now with
  | none => exact Nat.le_refl now
  | some time => exact le_of_answersAt h

theorem Welcomes.exists_respondsAt (hw : plan.Welcomes) (now : Nat) :
    ∃ time, plan.respondsAt now = some time ∧ (Sink.ofPlan plan).offer time 1 = .accepts 1 := by
  obtain ⟨release, hr⟩ := Sink.exists_releaseAt hw.moves
  have offer (time : Nat) : (Sink.ofPlan plan).offer time 1 =
      if time < release then .pending (some release) else .accepts 1 := by
    rw [Sink.offer_eq_offerStalls hw, Sink.offerStalls, hr, Sink.roomBeforeStalls_one,
      Sink.offerPortion_one hw.portion]
  by_cases early : now < release
  · exact ⟨release, by simp only [respondsAt, offer, if_pos early],
      by rw [offer, if_neg (Nat.lt_irrefl release)]⟩
  · exact ⟨now, by simp only [respondsAt, offer, if_neg early], by rw [offer, if_neg early]⟩

end SinkPlan

end TunnelServer
