import TunnelServer.Proofs.Stream.Delivery
import TunnelServer.Proofs.Stream.Gathering

/-!
# When bytes can be had

How a script is divided says when each of its bytes can be had. A reader that takes some of them has
them at that time, and what it leaves has the other bytes at the times at which the whole script had
them; so several readers, one after another, are as fast as one.
-/

namespace TunnelServer

namespace Source

/-- When someone who starts to read at a time has so many bytes of a script. One byte more than the
script brings stands for what follows them. -/
def readyAt : Nat → Nat → List Event → Nat
  | now, 0, _ => now
  | now, _ + 1, [] => now
  | now, count + 1, event :: rest =>
    match event.arrival with
    | .data bytes => readyAt (max now event.due) (count + 1 - bytes.length) rest
    | _ => max now event.due

variable {now later time count more : Nat} {script left : List Event}

@[simp] theorem readyAt_zero (now : Nat) (script : List Event) : readyAt now 0 script = now := by
  cases script <;> rfl

theorem readyAt_data {due : Nat} {bytes : List UInt8} (h : due ≤ now) :
    readyAt now count (⟨due, .data bytes⟩ :: script) =
      readyAt now (count - bytes.length) script := by
  cases count with
  | zero => simp
  | succ count => rw [readyAt, Nat.max_eq_left h]

theorem readyAt_max (first second count : Nat) (script : List Event) :
    readyAt (max first second) count script = max first (readyAt second count script) := by
  induction script generalizing second count with
  | nil => cases count <;> rfl
  | cons event rest ih =>
    cases count with
    | zero => rfl
    | succ count =>
      simp only [readyAt]
      cases event.arrival with
      | data bytes =>
        simp only [Nat.max_assoc]
        exact ih ..
      | endOfStream | fault => exact Nat.max_assoc ..

theorem le_readyAt (now count : Nat) (script : List Event) : now ≤ readyAt now count script := by
  have whole := readyAt_max now now count script
  rw [Nat.max_self] at whole
  rw [whole]
  exact Nat.le_max_left ..

theorem readyAt_mono (h : count ≤ more) : readyAt now count script ≤ readyAt now more script := by
  induction script generalizing now count more with
  | nil => cases count <;> cases more <;> simp [readyAt]
  | cons event rest ih =>
    cases count with
    | zero =>
      rw [readyAt_zero]
      exact le_readyAt ..
    | succ count =>
      obtain ⟨more, rfl⟩ := Nat.exists_eq_succ_of_ne_zero (Nat.ne_of_gt (Nat.zero_lt_of_lt h))
      simp only [readyAt]
      cases event.arrival with
      | data bytes => exact ih (Nat.sub_le_sub_right h _)
      | endOfStream | fault => exact Nat.le_refl _

theorem readyAt_eq_of_le (h : now ≤ later) (h' : later ≤ readyAt now count script) :
    readyAt later count script = readyAt now count script := by
  rw [← Nat.max_eq_left h, readyAt_max, Nat.max_eq_right h']

theorem readyAt_mono_start (h : now ≤ later) :
    readyAt now count script ≤ readyAt later count script := by
  rw [← Nat.max_eq_left h, readyAt_max]
  exact Nat.le_max_right ..

/-- From a time on, what is left of a script has its bytes when the script has them. -/
def Resumes (count time : Nat) (script left : List Event) : Prop :=
  ∀ now more, time ≤ now → readyAt now more left = readyAt now (count + more) script

theorem Resumes.refl (time : Nat) (script : List Event) : Resumes 0 time script script := by
  intro now more _
  rw [Nat.zero_add]

theorem Resumes.mono (h : Resumes count time script left) (hl : time ≤ later) :
    Resumes count later script left :=
  fun now more hn => h now more (Nat.le_trans hl hn)

theorem Resumes.trans {last : List Event} (h : Resumes count time script left)
    (h' : Resumes more later left last) (hl : time ≤ later) :
    Resumes (count + more) later script last := by
  intro now further hn
  rw [h' now further hn, h now _ (Nat.le_trans hl hn), Nat.add_assoc]

/-- What was taken by a time was there by then. -/
theorem Resumes.readyAt_eq (h : Resumes count time script left) :
    readyAt time count script = time := by
  have here := h time 0 (Nat.le_refl time)
  rwa [readyAt_zero, Nat.add_zero, eq_comm] at here

theorem Resumes.data {due : Nat} (h : Resumes count time script left) (hd : due ≤ time)
    (bytes : List UInt8) :
    Resumes (bytes.length + count) time (⟨due, .data bytes⟩ :: script) left := by
  intro now more hn
  rw [h now more hn, readyAt_data (Nat.le_trans hd hn)]
  congr 1
  omega

theorem Resumes.part {due : Nat} {bytes : List UInt8} (hc : count ≤ bytes.length)
    (hd : due ≤ time) :
    Resumes count time (⟨due, .data bytes⟩ :: script)
      (⟨due, .data (bytes.drop count)⟩ :: script) := by
  intro now more hn
  rw [readyAt_data (Nat.le_trans hd hn), readyAt_data (Nat.le_trans hd hn), List.length_drop]
  congr 1
  omega

variable {tail : List Event} {bytes : List UInt8} {deadline : Option Nat} {wanted room : Nat}

/-- Bytes that are there in time are taken from the front, at the moment when they are there. -/
theorem Brings.gather (h : Brings tail script bytes) (hw : wanted ≤ bytes.length)
    (hd : ∀ limit ∈ deadline, readyAt now wanted script ≤ limit) :
    ∃ left, gather deadline wanted now script =
        ⟨.complete, readyAt now wanted script, bytes.take wanted, left⟩ ∧
      Brings tail left (bytes.drop wanted) ∧
      Resumes wanted (readyAt now wanted script) script left := by
  induction h generalizing wanted now with
  | done hn =>
    obtain rfl : wanted = 0 := by simpa using hw
    exact ⟨tail, by simp [Source.gather], .done hn, by simpa using Resumes.refl now tail⟩
  | @piece due piece rest script h ih =>
    cases wanted with
    | zero =>
      refine ⟨⟨due, .data piece⟩ :: script, by simp [Source.gather], .piece h, ?_⟩
      simpa using Resumes.refl now (⟨due, .data piece⟩ :: script)
    | succ wanted =>
      have ready : readyAt now (wanted + 1) (⟨due, .data piece⟩ :: script) =
          readyAt (max now due) (wanted + 1 - piece.length) script := rfl
      rw [ready] at hd ⊢
      have late : max now due ≤ readyAt (max now due) (wanted + 1 - piece.length) script :=
        le_readyAt ..
      have early : deadline.any (· < max now due) = false := by
        cases deadline with
        | none => rfl
        | some limit => simpa using Nat.le_trans late (hd limit rfl)
      have came : due ≤ readyAt (max now due) (wanted + 1 - piece.length) script :=
        Nat.le_trans (Nat.le_max_right ..) late
      by_cases hl : piece.length ≤ wanted + 1
      · have enough : wanted + 1 - piece.length ≤ rest.length := by
          rw [List.length_append] at hw
          omega
        obtain ⟨left, hg, brings, resumes⟩ := ih enough hd
        refine ⟨left, ?_, ?_, ?_⟩
        · simp only [Source.gather, early, hl, hg, List.take_append, List.take_of_length_le hl,
            Bool.false_eq_true, if_false, if_true]
        · rw [List.drop_append, List.drop_eq_nil_of_le hl, List.nil_append]
          exact brings
        · have all := resumes.data came piece
          rwa [Nat.add_sub_cancel' hl] at all
      · have whole : wanted + 1 ≤ piece.length := by omega
        have none : wanted + 1 - piece.length = 0 := Nat.sub_eq_zero_of_le whole
        rw [none, readyAt_zero] at came ⊢
        refine ⟨⟨due, .data (piece.drop (wanted + 1))⟩ :: script, ?_, ?_, .part whole came⟩
        · rw [List.take_append_of_le_length whole]
          simp only [Source.gather, early, hl, Bool.false_eq_true, if_false]
        · rw [List.drop_append_of_le_length whole]
          exact .piece h

/-- A read from a script that brings bytes and then ends: it is answered with the next of them, with
the end where there are none, or with a wait that is no longer than it takes the next one to
arrive. -/
theorem Brings.poll {due : Nat} {after : List Event} {answer : Poll}
    (h : Brings (⟨due, .endOfStream⟩ :: after) script bytes) (hr : 0 < room)
    (hp : pollScript room now script = (answer, left)) :
    ∃ rest, bytes = answer.given ++ rest ∧ Brings (⟨due, .endOfStream⟩ :: after) left rest ∧
      Resumes answer.given.length now script left ∧ (answer = .endOfStream → bytes = []) ∧
      (∀ kind, answer ≠ .fault kind) ∧
      ∀ wake, answer = .pending wake → ∃ time, wake = some time ∧ time ≤ readyAt now 1 script := by
  have room_ne : room ≠ 0 := Nat.ne_of_gt hr
  induction h with
  | done hn =>
    refine ⟨[], ?_⟩
    simp only [pollScript, room_ne, if_false] at hp
    split at hp <;> obtain ⟨rfl, rfl⟩ := Prod.mk.inj hp
    · exact ⟨rfl, .done hn, Resumes.refl now _, fun no => Poll.noConfusion no,
        fun _ no => Poll.noConfusion no, fun wake hw =>
          ⟨due, (Poll.pending.inj hw).symm, Nat.le_max_right ..⟩⟩
    · exact ⟨rfl, .done hn, Resumes.refl now _, fun _ => rfl, fun _ no => Poll.noConfusion no,
        fun _ no => Poll.noConfusion no⟩
  | @piece due' piece rest script h ih =>
    simp only [pollScript, room_ne, if_false] at hp
    split at hp
    · obtain ⟨rfl, rfl⟩ := Prod.mk.inj hp
      refine ⟨piece ++ rest, rfl, .piece h, Resumes.refl now _, fun no => Poll.noConfusion no,
        fun _ no => Poll.noConfusion no, fun wake hw => ⟨due', (Poll.pending.inj hw).symm, ?_⟩⟩
      exact Nat.le_trans (Nat.le_max_right now due') (le_readyAt ..)
    · rename_i ready
      have came : due' ≤ now := Nat.le_of_not_lt ready
      cases piece with
      | nil =>
        obtain ⟨rest', split, brings, resumes, ended, sound, waits⟩ := ih hp
        have all := resumes.data came []
        rw [List.length_nil, Nat.zero_add] at all
        refine ⟨rest', split, brings, all, ended, sound, ?_⟩
        rw [readyAt_data came]
        exact waits
      | cons b bs =>
        have cut : (b :: bs).drop room = bs.drop (room - 1) := by
          obtain ⟨room, rfl⟩ := Nat.exists_eq_succ_of_ne_zero room_ne
          rfl
        simp only at hp
        split at hp <;> obtain ⟨rfl, rfl⟩ := Prod.mk.inj hp
        · refine ⟨rest, rfl, h, ?_, fun no => Poll.noConfusion no, fun _ no => Poll.noConfusion no,
            fun _ no => Poll.noConfusion no⟩
          exact (Resumes.refl now script).data came (b :: bs)
        · rename_i nonempty
          have longer : room ≤ (b :: bs).length := by
            have some := mt List.drop_eq_nil_of_le nonempty
            rw [List.length_cons]
            omega
          refine ⟨(b :: bs).drop room ++ rest, ?_, ?_, ?_, fun no => Poll.noConfusion no,
            fun _ no => Poll.noConfusion no, fun _ no => Poll.noConfusion no⟩
          · rw [Poll.given, ← List.append_assoc, List.take_append_drop]
          · rw [cut]
            exact .piece h
          · rw [Poll.given, List.length_take, Nat.min_eq_left longer, ← cut]
            exact .part longer came

theorem offers_iff : Offers now script bytes ↔ ∃ due after,
    Brings (⟨due, .endOfStream⟩ :: after) script bytes ∧
      readyAt now (bytes.length + 1) script = now := by
  constructor
  · intro h
    induction h with
    | @ended due after hd => exact ⟨due, after, .done rfl, Nat.max_eq_left hd⟩
    | @piece due bytes rest script hd _ ih =>
      obtain ⟨last, after, brings, ready⟩ := ih
      refine ⟨last, after, .piece brings, ?_⟩
      rw [readyAt_data hd, List.length_append, Nat.add_assoc, Nat.add_sub_cancel_left, ready]
  · rintro ⟨due, after, brings, ready⟩
    induction brings with
    | done =>
      have came : max now due = now := ready
      exact .ended (by omega)
    | @piece due' piece rest script _ ih =>
      have late : max now due' ≤ now := Nat.le_trans (le_readyAt ..) (Nat.le_of_eq ready)
      have came : due' ≤ now := Nat.le_trans (Nat.le_max_right ..) late
      rw [readyAt_data came, List.length_append, Nat.add_assoc, Nat.add_sub_cancel_left] at ready
      exact .piece came (ih ready)

end Source

end TunnelServer
