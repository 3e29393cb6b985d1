import TunnelServer.Config.Validity
import TunnelServer.Network.Connector

/-! # The server

What a server goes by, taken from its configuration: the secret, the time limits, the buffer sizes,
and how it connects to destinations.
-/

namespace TunnelServer

/-- A server that can serve clients. -/
structure Server where
  secret : Secret
  timeouts : Timeouts
  relayBufferSize : Nat
  sendBufferSize : Option UInt32
  /-- Whether socket buffer sizes are logged while relaying. -/
  debug : Bool
  connector : Connector

namespace Server

/-- The server of a configuration, which resolves hosts like the system. Of the configuration only
the time limits and the password can stand in the way. -/
def ofConfig (machine : Machine) (config : ServerConfig) : Except ConfigFault Server := do
  config.timeouts.validate
  let timeouts := Timeouts.ofConfig config.timeouts
  let secret ← config.secretOrFault
  return {
    secret
    timeouts
    relayBufferSize := config.relayBufferSize.toNat
    sendBufferSize := config.sendBuffer?
    debug := config.debug
    connector := ⟨.system machine.directory, config.rejectLoopback, timeouts.connect⟩ }

def withResolver (server : Server) (resolver : Resolver) : Server :=
  { server with connector := server.connector.withResolver resolver }

def describeSize : Option UInt32 → String
  | some size => "Some(" ++ toString size.toNat ++ ")"
  | none => "None"

/-- What is shown of a server in diagnostics. The secret is not. -/
def describe (server : Server) : String :=
  "Server \x7b secret: " ++ Secret.redacted ++ ", timeouts: " ++ server.timeouts.describe ++
    ", relay_buffer_size: " ++ toString server.relayBufferSize ++
    ", send_buffer_size: " ++ describeSize server.sendBufferSize ++
    ", debug: " ++ toString server.debug ++
    ", connector: " ++ server.connector.describe ++ " \x7d"

end Server

end TunnelServer
