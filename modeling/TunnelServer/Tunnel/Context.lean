import TunnelServer.Time
import TunnelServer.Tunnel.Notice

/-! # What the two directions of a tunnel share

The directions see when the other one last wrote, and whether the tunnel is broken or closing. The
tunnel starts closing once: if it is broken by then, both connections are reset; else the
destination's is closed in order and the client's is left to be closed when both directions are
done.
-/

namespace TunnelServer

/-- The two connections of a tunnel. -/
inductive Side where
  | client
  | destination
deriving DecidableEq, Repr

/-- The two ways to close a connection. -/
inductive CloseKind where
  /-- Data on its way is delivered first. -/
  | orderly
  | abortive
deriving DecidableEq, Repr

/-- A call that closes a connection. -/
structure Close where
  side : Side
  kind : CloseKind
deriving DecidableEq, Repr

/-- What the directions of a tunnel share. A time stamp counts the milliseconds since the start
plus one, so that zero can mean that nothing was written yet. -/
structure Context where
  /-- What the tunnel is called in diagnostics. -/
  label : String
  /-- Whether buffer sizes are logged. -/
  debug : Bool
  /-- When the tunnel was set up. -/
  start : Nat
  toClient : UInt64
  toDestination : UInt64
  broken : Bool
  /-- When the tunnel started to close, if it did. -/
  closedAt : Option Nat
  /-- The calls that closed connections, the first one first. -/
  closes : List Close
deriving DecidableEq, Repr

namespace Context

def fresh (label : String) (debug : Bool) (start : Nat) : Context :=
  ⟨label, debug, start, 0, 0, false, none, []⟩

def closing (context : Context) : Bool := context.closedAt.isSome

def stamp (context : Context) (now : Nat) : UInt64 :=
  UInt64.ofNat (now - context.start) + 1

/-- The time stamp of a direction's last write. -/
def lastWrite (context : Context) : Direction → UInt64
  | .clientToDestination => context.toDestination
  | .destinationToClient => context.toClient

def recordWrite (context : Context) (now : Nat) : Direction → Context
  | .clientToDestination => { context with toDestination := context.stamp now }
  | .destinationToClient => { context with toClient := context.stamp now }

/-- The difference of two time stamps, nothing if it were negative. -/
def elapsed (later earlier : UInt64) : UInt64 :=
  if later < earlier then 0 else later - earlier

/-- Whether a direction has written less than `window` ago. -/
def wroteWithin (context : Context) (now : Nat) (direction : Direction) (window : Nat) :
    Bool :=
  let last := context.lastWrite direction
  last ≠ 0 && elapsed (context.stamp now) last < UInt64.ofNat window

def markBroken (context : Context) : Context := { context with broken := true }

def closeNotice (context : Context) : Notice :=
  if context.broken then .abortiveClose else .orderlyClose

def closeCalls (context : Context) : List Close :=
  if context.broken then [⟨.destination, .abortive⟩, ⟨.client, .abortive⟩]
  else [⟨.destination, .orderly⟩]

/-- Starts to close the tunnel, unless it is closing already. -/
def shutdown (context : Context) (now : Nat) : Context :=
  if context.closing then context
  else { context with closedAt := some now, closes := context.closes ++ context.closeCalls }

/-- What starting to close reports: something only if the tunnel was not closing already. -/
def shutdownNotices (context : Context) : List Notice :=
  if context.closing then [] else [context.closeNotice]

/-- Closes the client's connection in order, unless the tunnel is broken. -/
def finish (context : Context) : Context :=
  if context.broken then context
  else { context with closes := context.closes ++ [⟨.client, .orderly⟩] }

/-- What is shown of a tunnel in diagnostics; `label` is the quoted label. -/
def describe (context : Context) (label : String) : String :=
  "TunnelContext \x7b label: " ++ label ++ ", broken: " ++ toString context.broken ++
    ", closing: " ++ toString context.closing ++ " \x7d"

/-! ## The far ends -/

/-- What the far end of a connection sees. -/
inductive FarEnd where
  | stillOpen
  /-- The stream came to its end. -/
  | ended
  | reset
deriving DecidableEq, Repr

/-- What the far end of a connection sees. An orderly close is seen at once, a reset only once the
connection is let go of, and then a connection that was never closed comes to its end. -/
def farEnd (context : Context) (released : Bool) (side : Side) : FarEnd :=
  if ⟨side, .orderly⟩ ∈ context.closes then .ended
  else if released then
    if ⟨side, .abortive⟩ ∈ context.closes then .reset else .ended
  else .stillOpen

end Context

end TunnelServer
