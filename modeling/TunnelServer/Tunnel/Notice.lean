import TunnelServer.Io.Error
import TunnelServer.Log
import TunnelServer.Tunnel.Direction

/-! # What a tunnel reports

The events of a tunnel that are worth a log record, and how a relay can end.
-/

namespace TunnelServer

inductive RelayExit where
  /-- The source came to its end. -/
  | eof
  /-- Nothing moved in either direction for as long as the time limit says. -/
  | idle
  | fault
  /-- The tunnel was closing already. -/
  | closed
deriving DecidableEq, Repr

def RelayExit.label : RelayExit → String
  | .eof => "Eof"
  | .idle => "Idle"
  | .fault => "Fault"
  | .closed => "Closed"

/-- The sizes of a connection's two buffers. -/
structure BufferSizes where
  recv : Nat
  send : Nat
deriving DecidableEq, Repr

/-- An event worth a log record. -/
inductive Notice where
  | readTimeout (direction : Direction)
  | readError (direction : Direction) (kind : IoErrorKind)
  | endOfStream (direction : Direction)
  | writeError (direction : Direction) (kind : IoErrorKind)
  /-- The buffer sizes of both connections were looked at. -/
  | bufferSizes
  | finished (direction : Direction) (exit : RelayExit)
  | abortiveClose
  | orderlyClose
  | sinkFailed (direction : Direction) (kind : IoErrorKind)
  | sinkTimedOut (direction : Direction)
deriving DecidableEq, Repr

namespace Notice

/-- Whether an event says why a relay ended that was not told to. -/
def isReport : Notice → Bool
  | readTimeout _ | readError .. | endOfStream _ | writeError .. => true
  | _ => false

def isClose : Notice → Bool
  | abortiveClose | orderlyClose => true
  | _ => false

/-- The sizes of the buffers of both connections, after the client's address if it has one. -/
def bufferText (client : Option String) (near far : BufferSizes) : String :=
  client.getD "unknown" ++ ", rbufsz: " ++ toString near.recv ++
    ", sbufsz: " ++ toString near.send ++ ", drbufsz: " ++ toString far.recv ++
    ", dsbufsz: " ++ toString far.send

def inParentheses (kind : IoErrorKind) : String := " (" ++ kind.description ++ ")"

/-- The log record of an event in a tunnel with a label; `buffers` is the text on buffer sizes. -/
def record (label buffers : String) : Notice → LogLine
  | readTimeout direction =>
    ⟨.info, "Read timeout on " ++ direction.sourceName ++ " " ++ label⟩
  | readError direction kind =>
    ⟨.warn, "Read error on " ++ direction.sourceName ++ " " ++ label ++ inParentheses kind⟩
  | endOfStream direction =>
    ⟨.info, "End of stream on " ++ direction.sourceName ++ " " ++ label⟩
  | writeError direction kind =>
    ⟨.warn, "Write error on " ++ direction.sinkName ++ " " ++ label ++ inParentheses kind⟩
  | bufferSizes => ⟨.info, buffers⟩
  | finished direction exit =>
    ⟨.debug, "Relay " ++ direction.label ++ " finished " ++ label ++ " (" ++ exit.label ++ ")"⟩
  | abortiveClose => ⟨.debug, "Abortive close " ++ label⟩
  | orderlyClose => ⟨.debug, "Orderly close " ++ label⟩
  | sinkFailed direction kind =>
    ⟨.debug, "Shutdown of " ++ direction.sinkName ++ " failed " ++ label ++ inParentheses kind⟩
  | sinkTimedOut direction =>
    ⟨.debug, "Shutdown of " ++ direction.sinkName ++ " timed out " ++ label⟩

end Notice

end TunnelServer
