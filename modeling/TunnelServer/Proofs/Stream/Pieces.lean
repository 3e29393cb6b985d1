import TunnelServer.Proofs.Stream.Waiting
import TunnelServer.Stream.Copying

/-!
# Taking bytes in pieces

Bytes that nobody keeps are taken with one read after another, each into the same small room, until
enough of them are gone. It makes no difference to the stream, nor to the time, whether they are
taken so or all at once.
-/

namespace TunnelServer

namespace Source

variable {deadline : Option Nat} {room wanted now : Nat} {script : List Event}

/-- A wait for bytes goes on after a read as its answer says. -/
theorem gather_eq_pollScript (soon : deadline.any (· < now) = false) (roomy : 0 < room)
    (enough : room ≤ wanted) :
    gather deadline wanted now script =
      match pollScript room now script with
      | (.bytes bytes, rest) =>
        let after := gather deadline (wanted - bytes.length) now rest
        { after with bytes := bytes ++ after.bytes }
      | (.endOfStream, rest) => ⟨.ended, now, [], rest⟩
      | (.fault kind, rest) => ⟨.faulted kind, now, [], rest⟩
      | (.pending none, rest) => giveUp deadline now rest
      | (.pending (some wake), rest) =>
        if deadline.any (· < wake) then giveUp deadline now rest
        else gather deadline wanted wake rest := by
  have room_ne : room ≠ 0 := Nat.ne_of_gt roomy
  obtain ⟨wanted, rfl⟩ :=
    Nat.exists_eq_succ_of_ne_zero (Nat.ne_of_gt (Nat.lt_of_lt_of_le roomy enough))
  induction script with
  | nil => simp only [pollScript, room_ne, if_false, Nat.succ_eq_add_one, gather_nil]
  | cons event rest ih =>
    obtain ⟨due, arrival⟩ := event
    by_cases late : now < due
    · have time : max now due = due := Nat.max_eq_right (Nat.le_of_lt late)
      simp only [pollScript, room_ne, late, if_false, if_true, Nat.succ_eq_add_one]
      rw [gather, gather]
      simp only [time, Nat.max_self]
      split <;> simp [*]
    · have time : max now due = now := Nat.max_eq_left (Nat.le_of_not_lt late)
      have soon' : deadline.any (· < max now due) = false := by rw [time]; exact soon
      cases arrival with
      | endOfStream =>
        simp only [pollScript, room_ne, late, if_false, Nat.succ_eq_add_one,
          gather_endOfStream soon', time]
      | fault kind =>
        simp only [pollScript, room_ne, late, if_false, Nat.succ_eq_add_one,
          gather_fault soon', time]
      | data piece =>
        cases piece with
        | nil =>
          have skipped : pollScript room now (⟨due, .data []⟩ :: rest) =
              pollScript room now rest := by
            simp only [pollScript, room_ne, late, if_false]
          rw [skipped, ← ih, Nat.succ_eq_add_one, gather_piece soon' (Nat.zero_le _), time]
          rfl
        | cons b bs =>
          obtain ⟨room, rfl⟩ := Nat.exists_eq_succ_of_ne_zero room_ne
          by_cases fits : bs.length ≤ room
          · have all : bs.drop room = [] := List.drop_eq_nil_of_le fits
            have whole : (b :: bs).length ≤ wanted + 1 :=
              Nat.le_trans (Nat.succ_le_succ fits) enough
            simp only [pollScript, room_ne, late, if_false, Nat.succ_eq_add_one,
              Nat.add_sub_cancel, all, gather_piece soon' whole, time]
          · have long : ¬ (b :: bs).length ≤ room + 1 := by simpa using fits
            have size : ((b :: bs).take (room + 1)).length = room + 1 := by
              rw [List.length_take]
              omega
            have front : gather deadline (room + 1) now (⟨due, .data (b :: bs)⟩ :: rest) =
                ⟨.complete, now, (b :: bs).take (room + 1),
                  ⟨due, .data (bs.drop room)⟩ :: rest⟩ := by
              rw [gather_longPiece soon' long, time]
              rfl
            have polled : pollScript (room + 1) now (⟨due, .data (b :: bs)⟩ :: rest) =
                (.bytes ((b :: bs).take (room + 1)), ⟨due, .data (bs.drop room)⟩ :: rest) := by
              simp only [pollScript, late, if_false, Nat.succ_ne_zero, Nat.add_sub_cancel]
              cases left : bs.drop room with
              | nil => exact absurd (List.drop_eq_nil_iff.mp left) fits
              | cons => rfl
            rw [polled, ← Nat.add_sub_cancel' enough, gather_add, front]
            simp only [size, if_true, Nat.add_sub_cancel_left]

/-- It makes no difference whether the bytes are taken in pieces or all at once. -/
theorem discard_eq_gather (roomy : 0 < room) (soon : deadline.any (· < now) = false) :
    discard deadline room wanted now script = gather deadline wanted now script := by
  -- Each case of the recursion is what the wait for all bytes does after the same read.
  have step {wanted now : Nat} (script : List Event) (some : wanted ≠ 0)
      (soon : deadline.any (· < now) = false) : gather deadline wanted now script = _ :=
    gather_eq_pollScript soon (Nat.lt_min.mpr ⟨roomy, Nat.pos_of_ne_zero some⟩)
      (Nat.min_le_right room wanted)
  fun_induction discard deadline room wanted now script with
  | case1 => rw [gather_zero]
  | case2 wanted now script some bytes rest answer after ih =>
    rw [step script some soon, answer]
    simp only [after, ih soon]
  | case3 wanted now script some rest answer => rw [step script some soon, answer]
  | case4 wanted now script some kind rest answer => rw [step script some soon, answer]
  | case5 wanted now script some rest answer => rw [step script some soon, answer]
  | case6 wanted now script some wake rest answer late =>
    rw [step script some soon, answer]
    exact (if_pos late).symm
  | case7 wanted now script some wake rest answer early ih =>
    rw [step script some soon, answer, ih (Bool.eq_false_iff.mpr early)]
    exact (if_neg early).symm

theorem copyAway_eq_takeExactly (source : Source) (soon : deadline.any (· < now) = false) :
    source.copyAway deadline wanted now = source.takeExactly deadline wanted now := by
  rw [copyAway, takeExactly, discard_eq_gather (by decide) soon]

theorem any_lt_of_gather (some : 0 < wanted)
    (complete : (gather deadline wanted now script).outcome = .complete) :
    deadline.any (· < (gather deadline wanted now script).time) = false := by
  fun_induction gather deadline wanted now script with
  | case1 => cases some
  | case2 => exact (giveUp_incomplete _ _ _ complete).elim
  | case3 => exact (giveUp_incomplete _ _ _ complete).elim
  | case4 | case5 => cases complete
  | case6 wanted now event rest time soon bytes data fits after ih =>
    rcases Nat.eq_zero_or_pos (wanted + 1 - bytes.length) with none | more
    · simp only [after, none, gather_zero]
      exact Bool.eq_false_iff.mpr soon
    · exact ih more complete
  | case7 wanted now event rest time soon => exact Bool.eq_false_iff.mpr soon

end Source

end TunnelServer
