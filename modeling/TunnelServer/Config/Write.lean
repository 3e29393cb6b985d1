import TunnelServer.Config.Field
import TunnelServer.Toml.StringForm

/-! # Writing a configuration

Every field is written on a line of its own, section by section. Integers of a document end at
2^63 - 1, so a configuration with a larger number cannot be written.
-/

namespace TunnelServer

/-- A configuration holds a number that no document can hold. -/
inductive WriteError where
  | outOfRange
deriving DecidableEq, Repr

def WriteError.message : WriteError → String
  | .outOfRange => "out-of-range value for u64 type"

namespace Config

def writeNat (n : Nat) : Except WriteError (List Char) :=
  if n < UInt64.size / 2 then .ok (Numeral.digits 10 n) else .error .outOfRange

def writeBool (value : Bool) : List Char := (if value then "true" else "false").toList

def writeTimeout (timeouts : TimeoutConfig) (field : TimeoutField) :
    Except WriteError (List Char) :=
  writeNat (match field with
    | .handshake => timeouts.handshake
    | .transfer => timeouts.transfer
    | .connect => timeouts.connect
    | .peerJoin => timeouts.peerJoin).toNat

def writeLine (name : String) (value : List Char) : List Char :=
  name.toList ++ " = ".toList ++ value ++ ['\n']

def writeTimeouts (timeouts : TimeoutConfig) : Except WriteError (List Char) := do
  let lines ← TimeoutField.all.mapM fun field => do
    return writeLine field.name (← writeTimeout timeouts field)
  return "\n[server.timeouts]\n".toList ++ lines.flatten

/-- The lines for a field of a server's section. The time limits are a section of their own, which
comes last. -/
def writeServerField (server : ServerConfig) (field : ServerField) :
    Except WriteError (List Char) :=
  let line (value : List Char) := writeLine field.name value
  match field with
  | .password => .ok (line (Toml.writeString server.password))
  | .port => line <$> writeNat server.port.toNat
  | .bind => .ok (line (Toml.writeString server.bind))
  | .cert => .ok (line (Toml.writeString server.cert))
  | .privateKey => .ok (line (Toml.writeString server.privateKey))
  | .debug => .ok (line (writeBool server.debug))
  | .sendBufferSize => line <$> writeNat server.sendBufferSize.toNat
  | .recvBufferSize => line <$> writeNat server.recvBufferSize.toNat
  | .relayBufferSize => line <$> writeNat server.relayBufferSize.toNat
  | .rejectLoopback => .ok (line (writeBool server.rejectLoopback))
  | .timeouts => writeTimeouts server.timeouts

def writeServer (server : ServerConfig) : Except WriteError (List Char) := do
  let lines ← ServerField.all.mapM (writeServerField server)
  return "[server]\n".toList ++ lines.flatten

def writeLogging (logging : LoggingConfig) : List Char :=
  let value : LoggingField → String
    | .level => logging.level
    | .format => logging.format
  "\n[logging]\n".toList ++
    LoggingField.all.flatMap fun field => writeLine field.name (Toml.writeString (value field))

def write (config : Config) : Except WriteError String := do
  let server ← writeServer config.server
  return String.ofList (server ++ writeLogging config.logging)

end Config

end TunnelServer
