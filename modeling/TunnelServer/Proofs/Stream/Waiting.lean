import TunnelServer.Proofs.Stream.Arrival

/-!
# Waiting for bytes

A wait for a number of bytes ends with them, at the limit, or at an interruption of the stream, and
which of these it is depends only on when the bytes and the interruption come. A wait for more bytes
is a wait for the first of them and then a wait for the others.
-/

namespace TunnelServer

/-- What an interruption of the stream is reported as. -/
inductive Arrival.Reports : Arrival → IoError → Prop where
  | ended {cause : IoError} : cause.kind = .unexpectedEof → Reports .endOfStream cause
  | fault {kind : IoErrorKind} : Reports (.fault kind) (.ofKind kind)

namespace Source

variable {deadline : Option Nat} {wanted first second now limit : Nat} {tail script : List Event}
  {bytes : List UInt8}

theorem giveUp_incomplete (deadline : Option Nat) (now : Nat) (script : List Event) :
    (giveUp deadline now script).outcome ≠ .complete := by
  cases deadline <;> simp [giveUp]

theorem giveUp_some (script : List Event) (start : now ≤ limit) :
    giveUp (some limit) now script = ⟨.expired, limit, [], script⟩ := by
  rw [giveUp, Nat.max_eq_right start]

section Step

variable {event : Event} {due : Nat} {piece : List UInt8} {rest : List Event}

theorem gather_zero (deadline : Option Nat) (now : Nat) (script : List Event) :
    gather deadline 0 now script = ⟨.complete, now, [], script⟩ := by
  rw [gather]

theorem gather_nil (deadline : Option Nat) (wanted now : Nat) :
    gather deadline (wanted + 1) now [] = giveUp deadline now [] := by
  rw [gather]

theorem gather_late (late : deadline.any (· < max now event.due) = true) :
    gather deadline (wanted + 1) now (event :: rest) = giveUp deadline now (event :: rest) := by
  rw [gather]
  exact if_pos late

variable (soon : deadline.any (· < max now due) = false)
include soon

theorem gather_endOfStream : gather deadline (wanted + 1) now (⟨due, .endOfStream⟩ :: rest) =
    ⟨.ended, max now due, [], ⟨due, .endOfStream⟩ :: rest⟩ := by
  rw [gather]
  exact if_neg (Bool.eq_false_iff.mp soon)

theorem gather_fault (kind : IoErrorKind) :
    gather deadline (wanted + 1) now (⟨due, .fault kind⟩ :: rest) =
      ⟨.faulted kind, max now due, [], rest⟩ := by
  rw [gather]
  exact if_neg (Bool.eq_false_iff.mp soon)

theorem gather_piece (fits : piece.length ≤ wanted + 1) :
    gather deadline (wanted + 1) now (⟨due, .data piece⟩ :: rest) =
      let after := gather deadline (wanted + 1 - piece.length) (max now due) rest
      { after with bytes := piece ++ after.bytes } := by
  rw [gather]
  exact (if_neg (Bool.eq_false_iff.mp soon)).trans (if_pos fits)

theorem gather_longPiece (long : ¬ piece.length ≤ wanted + 1) :
    gather deadline (wanted + 1) now (⟨due, .data piece⟩ :: rest) =
      ⟨.complete, max now due, piece.take (wanted + 1),
        ⟨due, .data (piece.drop (wanted + 1))⟩ :: rest⟩ := by
  rw [gather]
  exact (if_neg (Bool.eq_false_iff.mp soon)).trans (if_neg long)

end Step

/-- Taking more bytes is taking the first of them and going on from there. -/
theorem gather_add (deadline : Option Nat) (first second now : Nat) (script : List Event) :
    gather deadline (first + second) now script =
      let front := gather deadline first now script
      if front.outcome = .complete then
        let back := gather deadline second front.time front.rest
        { back with bytes := front.bytes ++ back.bytes }
      else front := by
  induction script generalizing first now with
  | nil =>
    cases first with
    | zero => simp [gather_zero]
    | succ first =>
      have stuck := giveUp_incomplete deadline now []
      rw [Nat.succ_add, gather_nil, gather_nil]
      exact (if_neg stuck).symm
  | cons event rest ih =>
    cases first with
    | zero => simp [gather_zero]
    | succ first =>
      rw [Nat.succ_add]
      by_cases late : deadline.any (· < max now event.due) = true
      · have stuck := giveUp_incomplete deadline now (event :: rest)
        rw [gather_late late, gather_late late]
        exact (if_neg stuck).symm
      · obtain ⟨due, arrival⟩ := event
        have soon : deadline.any (· < max now due) = false := Bool.eq_false_iff.mpr late
        cases arrival with
        | endOfStream => simp [gather_endOfStream soon]
        | fault kind => simp [gather_fault soon]
        | data piece =>
          by_cases fits : piece.length ≤ first + 1
          · have whole : piece.length ≤ first + second + 1 := by omega
            have left : first + second + 1 - piece.length = first + 1 - piece.length + second := by
              omega
            rw [gather_piece soon fits, gather_piece soon whole, left, ih]
            dsimp only
            split <;> simp [List.append_assoc]
          · have longer : first + 1 < piece.length := by omega
            rw [gather_longPiece soon fits]
            cases second with
            | zero => simp [gather_zero, gather_longPiece soon fits]
            | succ second =>
              -- the rest of the piece is there already when the second part begins
              have again : max (max now due) due = max now due := by omega
              have soon' : deadline.any (· < max (max now due) due) = false := by
                rw [again]
                exact soon
              by_cases whole : piece.length ≤ first + (second + 1) + 1
              · have short : (piece.drop (first + 1)).length ≤ second + 1 := by
                  rw [List.length_drop]
                  omega
                have left : first + (second + 1) + 1 - piece.length =
                    second + 1 - (piece.length - (first + 1)) := by omega
                rw [gather_piece soon whole]
                simp only [if_true, gather_piece soon' short, again, left, List.length_drop]
                rw [← List.append_assoc, List.take_append_drop]
              · have long : ¬ (piece.drop (first + 1)).length ≤ second + 1 := by
                  rw [List.length_drop]
                  omega
                have split : first + (second + 1) + 1 = first + 1 + (second + 1) := by omega
                rw [gather_longPiece soon whole]
                simp only [if_true, gather_longPiece soon' long, again, split, List.drop_drop]
                rw [List.take_add]

theorem length_gather_le (deadline : Option Nat) (wanted now : Nat) (script : List Event) :
    (gather deadline wanted now script).bytes.length ≤ wanted := by
  fun_induction gather deadline wanted now script with
  | case1 => exact Nat.le_refl 0
  | case2 => cases deadline <;> simp [giveUp]
  | case3 => cases deadline <;> simp [giveUp]
  | case4 | case5 => simp
  | case6 wanted now event rest time _ bytes _ fits after ih =>
    have short : after.bytes.length ≤ wanted + 1 - bytes.length := ih
    simp only [List.length_append]
    omega
  | case7 wanted now event rest time _ bytes _ long =>
    simp only [List.length_take]
    omega

theorem readyAt_piece_le {due : Nat} {piece : List UInt8} {count : Nat}
    (h : max now due ≤ limit) (h' : readyAt (max now due) (count - piece.length) script ≤ limit) :
    readyAt now count (⟨due, .data piece⟩ :: script) ≤ limit := by
  cases count with
  | zero => exact Nat.le_trans (Nat.le_max_left now due) h
  | succ count => exact h'

/-- If neither the bytes nor an interruption come by the limit, the wait ends there, with those
bytes that have come by then. -/
theorem Brings.gather_of_late (h : Brings tail script bytes) (start : now ≤ limit)
    (late : wanted ≤ bytes.length → limit < readyAt now wanted script)
    (whole : tail ≠ [] → limit < readyAt now (bytes.length + 1) script) :
    ∃ count left, Source.gather (some limit) wanted now script =
        ⟨.expired, limit, bytes.take count, left⟩ ∧
      count < wanted ∧ count ≤ bytes.length ∧ readyAt now count script ≤ limit ∧
      (count < bytes.length → limit < readyAt now (count + 1) script) := by
  have some_wanted : 0 < wanted := by
    apply Nat.pos_of_ne_zero
    rintro rfl
    have never := late (Nat.zero_le _)
    rw [readyAt_zero] at never
    omega
  obtain ⟨wanted, rfl⟩ := Nat.exists_eq_succ_of_ne_zero (Nat.ne_of_gt some_wanted)
  induction h generalizing wanted now with
  | done hn =>
    refine ⟨0, tail, ?_, Nat.zero_lt_succ _, Nat.le_refl 0, ?_, fun no => absurd no (by simp)⟩
    · cases tail with
      | nil => rw [gather_nil, giveUp_some _ start, List.take_nil]
      | cons event rest =>
        have past : limit < max now event.due := by
          have never := whole (by simp)
          obtain ⟨due, arrival⟩ := event
          cases arrival with
          | data piece => simp [hasData] at hn
          | endOfStream => exact never
          | fault kind => exact never
        have late : (some limit).any (· < max now event.due) = true := decide_eq_true past
        rw [gather_late late, giveUp_some _ start, List.take_nil]
    · rw [readyAt_zero]
      exact start
  | @piece due piece rest script h ih =>
    by_cases past : limit < max now due
    · refine ⟨0, ⟨due, .data piece⟩ :: script, ?_, Nat.zero_lt_succ _, Nat.zero_le _, ?_, ?_⟩
      · have late : (some limit).any (· < max now due) = true := decide_eq_true past
        rw [gather_late late, giveUp_some _ start, List.take_zero]
      · rw [readyAt_zero]
        exact start
      · intro _
        exact Nat.lt_of_lt_of_le past (le_readyAt ..)
    · have there : max now due ≤ limit := Nat.le_of_not_lt past
      -- a longer piece would hold the last byte that is wanted, which is late
      have fits : piece.length ≤ wanted := by
        apply Nat.le_of_not_lt
        intro long
        have never : limit < readyAt (max now due) (wanted + 1 - piece.length) script := by
          apply late
          rw [List.length_append]
          omega
        rw [Nat.sub_eq_zero_of_le long, readyAt_zero] at never
        omega
      have left : wanted + 1 - piece.length = wanted - piece.length + 1 := by omega
      have late' : wanted - piece.length + 1 ≤ rest.length →
          limit < readyAt (max now due) (wanted - piece.length + 1) script := by
        intro enough
        rw [← left]
        apply late
        rw [List.length_append]
        omega
      have whole' : tail ≠ [] → limit < readyAt (max now due) (rest.length + 1) script := by
        intro more
        have never : limit < readyAt (max now due) ((piece ++ rest).length + 1 - piece.length)
            script := whole more
        have size : (piece ++ rest).length + 1 - piece.length = rest.length + 1 := by
          rw [List.length_append]
          omega
        rwa [size] at never
      obtain ⟨count, after, taken, short, there', came, next⟩ := ih there whole'
        (wanted - piece.length) late' (Nat.zero_lt_succ _)
      refine ⟨piece.length + count, after, ?_, by omega, ?_, ?_, ?_⟩
      · have soon : (some limit).any (· < max now due) = false := decide_eq_false past
        rw [gather_piece soon (Nat.le_succ_of_le fits), left, taken, List.take_length_add_append]
      · rw [List.length_append]
        omega
      · apply readyAt_piece_le there
        rwa [Nat.add_sub_cancel_left]
      · intro more
        rw [List.length_append] at more
        have never := next (by omega)
        have size : piece.length + count + 1 - piece.length = count + 1 := by omega
        simp only [readyAt, size]
        exact never

theorem any_lt_eq_false {moment : Nat} (h : ∀ limit ∈ deadline, moment ≤ limit) :
    deadline.any (· < moment) = false := by
  cases deadline with
  | none => rfl
  | some limit => exact decide_eq_false (Nat.not_lt.mpr (h limit rfl))

theorem Brings.gather_of_interrupted {due : Nat} {arrival : Arrival} {later : List Event}
    (h : Brings (⟨due, arrival⟩ :: later) script bytes) (short : bytes.length < wanted)
    (soon : ∀ limit ∈ deadline, readyAt now (bytes.length + 1) script ≤ limit) :
    ∃ outcome left, Source.gather deadline wanted now script =
        ⟨outcome, readyAt now (bytes.length + 1) script, bytes, left⟩ ∧
      ((outcome = .ended ∧ arrival = .endOfStream) ∨
        ∃ kind, outcome = .faulted kind ∧ arrival = .fault kind) := by
  obtain ⟨wanted, rfl⟩ := Nat.exists_eq_succ_of_ne_zero (Nat.ne_of_gt (Nat.zero_lt_of_lt short))
  induction h generalizing wanted now with
  | done hn =>
    have ready : readyAt now 1 (⟨due, arrival⟩ :: later) = max now due := by
      cases arrival with
      | data piece => simp [hasData] at hn
      | endOfStream => rfl
      | fault kind => rfl
    replace soon : ∀ limit ∈ deadline, max now due ≤ limit := ready ▸ soon
    have early := any_lt_eq_false soon
    cases arrival with
    | data piece => simp [hasData] at hn
    | endOfStream =>
      refine ⟨.ended, ⟨due, .endOfStream⟩ :: later, ?_, .inl ⟨rfl, rfl⟩⟩
      rw [gather_endOfStream early]
      rfl
    | fault kind =>
      refine ⟨.faulted kind, later, ?_, .inr ⟨kind, rfl, rfl⟩⟩
      rw [gather_fault early]
      rfl
  | @piece first piece rest script h ih =>
    rw [List.length_append] at short
    have size : (piece ++ rest).length + 1 - piece.length = rest.length + 1 := by
      rw [List.length_append]
      omega
    have ready : readyAt now ((piece ++ rest).length + 1) (⟨first, .data piece⟩ :: script) =
        readyAt (max now first) (rest.length + 1) script := by
      simp only [readyAt, size]
    rw [ready] at soon ⊢
    have early : deadline.any (· < max now first) = false :=
      any_lt_eq_false fun limit hl => Nat.le_trans (le_readyAt ..) (soon limit hl)
    have fits : piece.length ≤ wanted + 1 := by omega
    have left : wanted + 1 - piece.length = wanted - piece.length + 1 := by omega
    obtain ⟨outcome, after, taken, why⟩ := ih soon (wanted - piece.length) (by omega)
    refine ⟨outcome, after, ?_, why⟩
    rw [gather_piece early fits, left, taken]

theorem Brings.gather_of_silence (h : Brings [] script bytes) (short : bytes.length < wanted) :
    ∃ time left, Source.gather none wanted now script = ⟨.parked, time, bytes, left⟩ := by
  obtain ⟨wanted, rfl⟩ := Nat.exists_eq_succ_of_ne_zero (Nat.ne_of_gt (Nat.zero_lt_of_lt short))
  induction h generalizing wanted now with
  | done hn => exact ⟨now, [], gather_nil none wanted now⟩
  | @piece due piece rest script h ih =>
    rw [List.length_append] at short
    have fits : piece.length ≤ wanted + 1 := by omega
    have left : wanted + 1 - piece.length = wanted - piece.length + 1 := by omega
    obtain ⟨time, after, taken⟩ := @ih (max now due) (wanted - piece.length) (by omega)
    refine ⟨time, after, ?_⟩
    rw [gather_piece rfl fits, left, taken]

end Source

end TunnelServer
