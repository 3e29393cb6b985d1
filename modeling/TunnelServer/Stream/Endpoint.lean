import TunnelServer.Stream.Sink
import TunnelServer.Stream.Source

/-! # Endpoints

One end of a connection is a source and a sink.
-/

namespace TunnelServer

/-- One end of a connection: what it delivers and what it accepts. -/
structure Endpoint where
  source : Source
  sink : Sink
deriving DecidableEq, Repr

end TunnelServer
