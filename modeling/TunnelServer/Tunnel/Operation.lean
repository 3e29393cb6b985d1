import TunnelServer.Tunnel.Context

/-! # What can be done with a tunnel

The calls that the owner of a tunnel can make at any time, each with what it changes, what it
answers and what it reports.
-/

namespace TunnelServer

/-- A call of a tunnel's owner. -/
inductive Operation where
  /-- Notes that a direction has written. -/
  | recordWrite (direction : Direction)
  /-- Asks whether a direction has written less than `window` ago. -/
  | wroteWithin (direction : Direction) (window : Nat)
  | markBroken
  /-- Starts to close the tunnel. -/
  | shutdown
  /-- Closes the client's connection when both directions are done. -/
  | finish
  | isBroken
  | isClosing
  /-- Asks whether waiting for the tunnel to close is over. -/
  | hasClosed
  /-- Reports the sizes of the connections' buffers. -/
  | reportBuffers
deriving DecidableEq, Repr

namespace Operation

def effect (now : Nat) (context : Context) : Operation → Context
  | recordWrite direction => context.recordWrite now direction
  | markBroken => context.markBroken
  | shutdown => context.shutdown now
  | finish => context.finish
  | _ => context

/-- What a call answers; closing answers whether it was this call that started it. -/
def answer? (now : Nat) (context : Context) : Operation → Option Bool
  | wroteWithin direction window => some (context.wroteWithin now direction window)
  | shutdown => some !context.closing
  | isBroken => some context.broken
  | isClosing | hasClosed => some context.closing
  | _ => none

def notices (context : Context) : Operation → List Notice
  | shutdown => context.shutdownNotices
  | reportBuffers => [.bufferSizes]
  | _ => []

end Operation

/-- A call and the time at which it is made. -/
structure TimedOperation where
  time : Nat
  operation : Operation
deriving DecidableEq, Repr

/-- A tunnel's shared state after calls that were made one after another. -/
def Context.after (context : Context) (calls : List TimedOperation) : Context :=
  calls.foldl (fun context call => call.operation.effect call.time context) context

namespace Context

variable (context : Context)

@[simp] theorem after_nil : context.after [] = context := rfl

@[simp] theorem after_cons (call : TimedOperation) (calls : List TimedOperation) :
    context.after (call :: calls) =
      (call.operation.effect call.time context).after calls := rfl

theorem after_append (calls later : List TimedOperation) :
    context.after (calls ++ later) = (context.after calls).after later :=
  List.foldl_append

end Context

end TunnelServer
