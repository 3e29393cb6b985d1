import TunnelServer.Stream.Source

/-!
# Taking a fixed number of bytes

Whatever a script holds, a finished attempt took as many bytes as were wanted, and the source keeps
a record of everything that an attempt took. Where a script offers bytes and then ends, an attempt
to take more takes all of them, however they are divided, and does not wait.
-/

namespace TunnelServer

namespace Source

/-- A script has bytes ready at a time, in whatever pieces, and then the end of the stream. -/
inductive Offers (now : Nat) : List Event → List UInt8 → Prop where
  | ended {due : Nat} {later : List Event} : due ≤ now →
      Offers now (⟨due, .endOfStream⟩ :: later) []
  | piece {due : Nat} {bytes rest : List UInt8} {script : List Event} : due ≤ now →
      Offers now script rest → Offers now (⟨due, .data bytes⟩ :: script) (bytes ++ rest)

variable {deadline : Option Nat} {wanted now : Nat} {script : List Event} {bytes : List UInt8}

theorem length_gather (h : (gather deadline wanted now script).outcome = .complete) :
    (gather deadline wanted now script).bytes.length = wanted := by
  fun_induction gather deadline wanted now script with
  | case1 => rfl
  | case2 => cases deadline <;> simp [giveUp] at h
  | case3 => cases deadline <;> simp [giveUp] at h
  | case4 | case5 => simp at h
  | case6 wanted now event rest time _ bytes _ hl after ih =>
    have short : after.bytes.length = wanted + 1 - bytes.length := ih h
    simp only [List.length_append]
    omega
  | case7 wanted now event rest time _ bytes _ hl =>
    simp only [List.length_take]
    omega

theorem taken_takeExactly (source : Source) :
    (source.takeExactly deadline wanted now).2.taken =
      source.taken ++ (source.takeExactly deadline wanted now).1.bytes := by
  simp only [takeExactly, without, taken]
  split
  case isTrue h => rw [List.isEmpty_iff.mp h, List.append_nil]
  case isFalse => rw [Chunk.join_cons]

theorem takeExactly_of_gather {source : Source} {gathered : Gathered}
    (h : gather deadline wanted now source.script = gathered) :
    ∃ after, source.takeExactly deadline wanted now = (gathered, after) ∧
      after.taken = source.taken ++ gathered.bytes ∧ after.script = gathered.rest := by
  subst h
  exact ⟨_, rfl, taken_takeExactly source, rfl⟩

theorem Offers.mono {later : Nat} (h : Offers now script bytes) (hn : now ≤ later) :
    Offers later script bytes := by
  induction h with
  | ended hd => exact .ended (Nat.le_trans hd hn)
  | piece hd _ ih => exact .piece (Nat.le_trans hd hn) ih

theorem Offers.gather_of_lt (h : Offers now script bytes) (hw : bytes.length < wanted)
    (hd : deadline.any (· < now) = false) :
    ∃ rest, gather deadline wanted now script = ⟨.ended, now, bytes, rest⟩ ∧
      Offers now rest [] := by
  induction h generalizing wanted with
  | @ended due later hn =>
    obtain ⟨wanted, rfl⟩ := Nat.exists_eq_succ_of_ne_zero (Nat.ne_of_gt hw)
    have time : max now due = now := Nat.max_eq_left hn
    refine ⟨⟨due, .endOfStream⟩ :: later, ?_, .ended hn⟩
    simp [gather, time, hd]
  | @piece due piece rest script hn h ih =>
    obtain ⟨wanted, rfl⟩ := Nat.exists_eq_succ_of_ne_zero (Nat.ne_of_gt (Nat.zero_lt_of_lt hw))
    have time : max now due = now := Nat.max_eq_left hn
    rw [List.length_append] at hw
    have hl : piece.length ≤ wanted + 1 := by omega
    have short : rest.length < wanted + 1 - piece.length := by omega
    obtain ⟨left, hg, ho⟩ := ih short
    refine ⟨left, ?_, ho⟩
    simp only [gather, time, hd, hl, hg]
    simp

end Source

end TunnelServer
