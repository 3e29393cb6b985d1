import TunnelServer.Time
import TunnelServer.Wire.Secret

/-! # Configuration

What can be configured, the values that hold where nothing is configured, and what follows from a
configuration. A buffer size of zero leaves the size to the system.
-/

namespace TunnelServer

structure TimeoutConfig where
  /-- Every read before the status byte. -/
  handshake : UInt64
  /-- Reads on both sides while relaying. -/
  transfer : UInt64
  connect : UInt64
  /-- Waiting for the other relay once one has returned. -/
  peerJoin : UInt64
deriving DecidableEq, Repr

structure ServerConfig where
  /-- The shared secret, at most 64 bytes. -/
  password : String
  port : UInt16
  /-- The address to listen on. -/
  bind : String
  /-- Where the certificate chain is. -/
  cert : String
  /-- Where the private key is. -/
  privateKey : String
  /-- Whether socket buffer sizes are logged while relaying. -/
  debug : Bool
  /-- Send buffer of accepted sockets. -/
  sendBufferSize : UInt32
  /-- Receive buffer of the listening socket. -/
  recvBufferSize : UInt32
  /-- Bytes that each direction of a relay reads at once. -/
  relayBufferSize : UInt64
  /-- Whether destinations on this machine are refused. -/
  rejectLoopback : Bool
  timeouts : TimeoutConfig
deriving DecidableEq, Repr

structure LoggingConfig where
  /-- A level or a list of filter directives. -/
  level : String
  format : String
deriving DecidableEq, Repr

structure Config where
  server : ServerConfig
  logging : LoggingConfig
deriving DecidableEq, Repr

/-- Bytes that each direction of a relay reads at once, where nothing is configured. -/
def ServerConfig.relayBufferDefault : UInt64 := 524288

def TimeoutConfig.standard : TimeoutConfig where
  handshake := UInt64.ofNat Millis.handshakeDefault
  transfer := UInt64.ofNat Millis.transferDefault
  connect := UInt64.ofNat Millis.connectDefault
  peerJoin := UInt64.ofNat Millis.peerJoinDefault

/-- The values that hold where nothing is configured. They have no password and no port. -/
def ServerConfig.standard : ServerConfig where
  password := ""
  port := 0
  bind := "0.0.0.0"
  cert := "fullchain.pem"
  privateKey := "privkey.pem"
  debug := false
  sendBufferSize := 0
  recvBufferSize := 0
  relayBufferSize := relayBufferDefault
  rejectLoopback := true
  timeouts := .standard

def LoggingConfig.standard : LoggingConfig := ⟨"info", "full"⟩

def Config.standard : Config := ⟨.standard, .standard⟩

def Config.sample : Config :=
  ⟨{ ServerConfig.standard with password := "change-me", port := 443 }, .standard⟩

/-- The time limits that a running server goes by. -/
structure Timeouts where
  handshake : Nat
  transfer : Nat
  connect : Nat
  peerJoin : Nat
deriving DecidableEq, Repr

namespace Timeouts

def standard : Timeouts :=
  ⟨Millis.handshakeDefault, Millis.transferDefault, Millis.connectDefault, Millis.peerJoinDefault⟩

def ofConfig (config : TimeoutConfig) : Timeouts :=
  ⟨config.handshake.toNat, config.transfer.toNat, config.connect.toNat, config.peerJoin.toNat⟩

def describe (timeouts : Timeouts) : String :=
  "Timeouts \x7b handshake: " ++ Millis.render timeouts.handshake ++
    ", transfer: " ++ Millis.render timeouts.transfer ++
    ", connect: " ++ Millis.render timeouts.connect ++
    ", peer_join: " ++ Millis.render timeouts.peerJoin ++ " \x7d"

end Timeouts

namespace ServerConfig

/-- The address and port to listen on. An address with a colon is put in brackets. -/
def listenAddress (config : ServerConfig) : String :=
  let port := toString config.port.toNat
  if ':' ∈ config.bind.toList then "[" ++ config.bind ++ "]:" ++ port
  else config.bind ++ ":" ++ port

/-- A size that was configured, if it is not left to the system. -/
def chosenSize (size : UInt32) : Option UInt32 := if 0 < size then some size else none

def sendBuffer? (config : ServerConfig) : Option UInt32 := chosenSize config.sendBufferSize

/-- The receive buffer of the listening socket, if one is configured. -/
def recvBuffer? (config : ServerConfig) : Option UInt32 := chosenSize config.recvBufferSize

def secret (config : ServerConfig) : Except ProtocolError Secret :=
  Secret.ofPassword config.password

end ServerConfig

end TunnelServer
