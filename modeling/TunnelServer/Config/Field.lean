import TunnelServer.Config.Basic

/-! # The fields of a configuration

The names under which a configuration is written down, section by section, in their order.
-/

namespace TunnelServer

/-- The fields of a server's section. -/
inductive ServerField where
  | password
  | port
  | bind
  | cert
  | privateKey
  | debug
  | sendBufferSize
  | recvBufferSize
  | relayBufferSize
  | rejectLoopback
  | timeouts
deriving DecidableEq, Repr

/-- The fields of the section on time limits. -/
inductive TimeoutField where
  | handshake
  | transfer
  | connect
  | peerJoin
deriving DecidableEq, Repr

/-- The fields of the section on logging. -/
inductive LoggingField where
  | level
  | format
deriving DecidableEq, Repr

inductive Section where
  | server
  | logging
deriving DecidableEq, Repr

namespace ServerField

def all : List ServerField :=
  [password, port, bind, cert, privateKey, debug, sendBufferSize, recvBufferSize,
    relayBufferSize, rejectLoopback, timeouts]

def name : ServerField → String
  | password => "password"
  | port => "port"
  | bind => "bind"
  | cert => "cert"
  | privateKey => "private_key"
  | debug => "debug"
  | sendBufferSize => "send_buffer_size"
  | recvBufferSize => "recv_buffer_size"
  | relayBufferSize => "relay_buffer_size"
  | rejectLoopback => "reject_loopback"
  | timeouts => "timeouts"

end ServerField

namespace TimeoutField

def all : List TimeoutField := [handshake, transfer, connect, peerJoin]

def name : TimeoutField → String
  | handshake => "handshake"
  | transfer => "transfer"
  | connect => "connect"
  | peerJoin => "peer_join"

end TimeoutField

namespace LoggingField

def all : List LoggingField := [level, format]

def name : LoggingField → String
  | level => "level"
  | format => "format"

end LoggingField

namespace Section

def all : List Section := [server, logging]

def name : Section → String
  | server => "server"
  | logging => "logging"

end Section

end TunnelServer
