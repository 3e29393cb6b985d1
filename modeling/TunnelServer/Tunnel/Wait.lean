import TunnelServer.Tunnel.Operation

/-! # Waiting for a tunnel to close

A task can wait for a tunnel to close. It looks at the tunnel once when it begins and then sleeps;
the call that starts to close the tunnel wakes every task that sleeps, and each looks again.
-/

namespace TunnelServer

/-- A task's wait for a tunnel to close. -/
structure Wait where
  begun : Nat
  /-- When the wait was over, if it was. -/
  ended : Option Nat
deriving DecidableEq, Repr

/-- The task looks at the tunnel, and its wait is over if the tunnel is closing. -/
def Wait.look (now : Nat) (context : Context) (wait : Wait) : Wait :=
  if wait.ended.isNone && context.closing then { wait with ended := some now } else wait

/-- What happens around the shared state of a tunnel. -/
inductive Act where
  | call (operation : Operation)
  /-- A task begins to wait for the tunnel to close. -/
  | wait
deriving DecidableEq, Repr

structure TimedAct where
  time : Nat
  act : Act
deriving DecidableEq, Repr

namespace TimedAct

def operation? : TimedAct → Option Operation
  | ⟨_, .call operation⟩ => some operation
  | ⟨_, .wait⟩ => none

/-- When a task began to wait, if this is what happened. -/
def begun? : TimedAct → Option Nat
  | ⟨_, .call _⟩ => none
  | ⟨time, .wait⟩ => some time

/-- Whether a write is noted. -/
def notesWrite : TimedAct → Bool
  | ⟨_, .call (.recordWrite _)⟩ => true
  | _ => false

end TimedAct

/-- The shared state of a tunnel with the waits for it to close, the first one first. -/
structure Attended where
  context : Context
  waits : List Wait
deriving DecidableEq, Repr

namespace Attended

def fresh (label : String) (debug : Bool) (start : Nat) : Attended := ⟨.fresh label debug start, []⟩

/-- Only the call that starts to close the tunnel wakes those who wait. -/
def act (now : Nat) (attended : Attended) : Act → Attended
  | .wait =>
    { attended with waits := attended.waits ++ [Wait.look now attended.context ⟨now, none⟩] }
  | .call operation =>
    let context := operation.effect now attended.context
    if operation = .shutdown ∧ operation.answer? now attended.context = some true then
      ⟨context, attended.waits.map (Wait.look now context)⟩
    else ⟨context, attended.waits⟩

/-- What is left when things happen one after another. -/
def run (attended : Attended) (acts : List TimedAct) : Attended :=
  acts.foldl (fun attended happening => attended.act happening.time happening.act) attended

@[simp] theorem run_nil (attended : Attended) : attended.run [] = attended := rfl

theorem run_append (attended : Attended) (acts later : List TimedAct) :
    attended.run (acts ++ later) = (attended.run acts).run later :=
  List.foldl_append

@[simp] theorem run_concat (attended : Attended) (acts : List TimedAct) (next : TimedAct) :
    attended.run (acts ++ [next]) = (attended.run acts).act next.time next.act :=
  run_append ..

end Attended

end TunnelServer
