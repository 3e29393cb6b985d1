import TunnelServer.Config.Basic

/-! # Valid configurations

A server needs a password that fits the secret field, a port, a relay buffer, and time limits that
leave some time. The first thing that is wrong, in this order, is reported; waiting for the other
relay may take no time at all.
-/

namespace TunnelServer

/-- The time limits that may not be zero. -/
inductive TimeoutName where
  | handshake
  | transfer
  | connect
deriving DecidableEq, Repr

def TimeoutName.label : TimeoutName → String
  | .handshake => "handshake"
  | .transfer => "transfer"
  | .connect => "connect"

/-- Why a configuration cannot be used. -/
inductive ConfigFault where
  | passwordMissing
  | portMissing
  | relayBufferEmpty
  | timeoutZero (name : TimeoutName)
  | unfitSecret (source : ProtocolError)
deriving DecidableEq

/-- The text shown for a fault, after the part of the program that it belongs to. -/
def ConfigFault.message : ConfigFault → String
  | .passwordMissing => "Configuration error: password is required"
  | .portMissing => "Configuration error: server port is required"
  | .relayBufferEmpty => "Configuration error: relay_buffer_size must be positive"
  | .timeoutZero name => "Configuration error: timeouts." ++ name.label ++ " must be positive"
  | .unfitSecret source => "Protocol error: " ++ source.message

def requirePositive (name : TimeoutName) (limit : UInt64) : Except ConfigFault Unit :=
  if limit = 0 then .error (.timeoutZero name) else .ok ()

def TimeoutConfig.validate (timeouts : TimeoutConfig) : Except ConfigFault Unit := do
  requirePositive .handshake timeouts.handshake
  requirePositive .transfer timeouts.transfer
  requirePositive .connect timeouts.connect

/-- The secret of the configured password, or why there is none. -/
def ServerConfig.secretOrFault (config : ServerConfig) : Except ConfigFault Secret :=
  config.secret.mapError .unfitSecret

def ServerConfig.validate (config : ServerConfig) : Except ConfigFault Unit := do
  if config.password.isEmpty then throw .passwordMissing
  if config.port = 0 then throw .portMissing
  if config.relayBufferSize = 0 then throw .relayBufferEmpty
  config.timeouts.validate
  let _ ← config.secretOrFault

end TunnelServer
