import TunnelServer.Stream.Source

/-! # Copying away

Bytes that nobody keeps are copied out of a source with one read after another, each into the same
buffer, until enough of them are gone.
-/

namespace TunnelServer

namespace Source

/-- How many events of a script are not there yet. -/
def outstanding (now : Nat) (script : List Event) : Nat :=
  script.countP (now < ·.due)

variable {room now wake : Nat} {script rest : List Event}

theorem outstanding_pollScript_le (room now : Nat) (script : List Event) :
    outstanding now (pollScript room now script).2 ≤ outstanding now script := by
  fun_induction pollScript room now script with
  | case6 | case8 => exact List.Sublist.countP_le (List.sublist_cons_self ..)
  | case7 _ _ _ _ _ ih => exact Nat.le_trans ih (List.Sublist.countP_le (List.sublist_cons_self ..))
  | case9 event rest => simp [outstanding, List.countP_cons]
  | _ => exact Nat.le_refl _

theorem outstanding_wake_lt (h : pollScript room now script = (.pending (some wake), rest)) :
    outstanding wake rest < outstanding now script := by
  fun_induction pollScript room now script with
  | case4 event others _ early =>
    obtain ⟨rfl, rfl⟩ := by simpa using h
    have fewer : outstanding event.due others ≤ outstanding now others := by
      refine List.countP_mono_left fun other _ due => ?_
      simp only [decide_eq_true_eq] at due ⊢
      omega
    simp only [outstanding, List.countP_cons, early, decide_true, Nat.lt_irrefl, decide_false,
      if_true, Bool.false_eq_true, if_false] at fewer ⊢
    omega
  | case7 event others _ _ _ ih =>
    exact Nat.lt_of_lt_of_le (ih h) (List.Sublist.countP_le (List.sublist_cons_self ..))
  | _ => simp at h

/-- Takes bytes, at most `room` with each read, until `wanted` of them are gone. -/
def discard (deadline : Option Nat) (room wanted now : Nat) (script : List Event) : Gathered :=
  if wanted = 0 then ⟨.complete, now, [], script⟩
  else
    match _ : pollScript (min room wanted) now script with
    | (.bytes bytes, rest) =>
      let after := discard deadline room (wanted - bytes.length) now rest
      { after with bytes := bytes ++ after.bytes }
    | (.endOfStream, rest) => ⟨.ended, now, [], rest⟩
    | (.fault kind, rest) => ⟨.faulted kind, now, [], rest⟩
    | (.pending none, rest) => giveUp deadline now rest
    | (.pending (some wake), rest) =>
      if deadline.any (· < wake) then giveUp deadline now rest
      else discard deadline room wanted wake rest
termination_by outstanding now script + wanted
decreasing_by
  · rename_i answer
    have fewer := outstanding_pollScript_le (min room wanted) now script
    have some := (load_of_pollScript_bytes answer).2
    rw [answer] at fewer
    dsimp only at fewer
    omega
  · rename_i answer _
    have fewer := outstanding_wake_lt answer
    omega

/-- The buffer through which bytes are copied, in bytes. -/
def copyBuffer : Nat := 8192

/-- Copies bytes out of the source until `wanted` of them are gone, or until the deadline. -/
def copyAway (deadline : Option Nat) (wanted : Nat) (now : Nat) (source : Source) :
    Gathered × Source :=
  let result := discard deadline copyBuffer wanted now source.script
  (result, source.without result)

end Source

end TunnelServer
