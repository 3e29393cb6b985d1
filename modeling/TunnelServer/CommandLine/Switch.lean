/-! # Switches

The switches of the command line: how each is written, and whether it takes a value.
-/

namespace TunnelServer.CommandLine

inductive Switch where
  | config
  | generateConfig
  | password
  | serverPort
  | cert
  | privateKey
  | debug
  | sendBuffer
  | recvBuffer
  | logLevel
  | help
  | version
deriving DecidableEq, Repr

namespace Switch

def all : List Switch :=
  [config, generateConfig, password, serverPort, cert, privateKey, debug, sendBuffer, recvBuffer,
    logLevel, help, version]

def longName : Switch → String
  | config => "config"
  | generateConfig => "generate-config"
  | password => "password"
  | serverPort => "server_port"
  | cert => "cert"
  | privateKey => "private_key"
  | debug => "debug"
  | sendBuffer => "sndbuf"
  | recvBuffer => "rcvbuf"
  | logLevel => "log-level"
  | help => "help"
  | version => "version"

def letter? : Switch → Option Char
  | password => some 'w'
  | serverPort => some 'p'
  | cert => some 'c'
  | privateKey => some 'k'
  | logLevel => some 'v'
  | help => some 'h'
  | version => some 'V'
  | _ => none

/-- What the value is called, for a switch that takes one. -/
def valueName? : Switch → Option String
  | config => some "CONFIG"
  | password => some "PASSWORD"
  | serverPort => some "SERVER_PORT"
  | cert => some "CERT"
  | privateKey => some "PRIVATE_KEY"
  | sendBuffer => some "SNDBUF"
  | recvBuffer => some "RCVBUF"
  | logLevel => some "LOG_LEVEL"
  | generateConfig | debug | help | version => none

def takesValue (switch : Switch) : Bool := switch.valueName?.isSome

def render (switch : Switch) : String :=
  match switch.valueName? with
  | some value => "--" ++ switch.longName ++ " <" ++ value ++ ">"
  | none => "--" ++ switch.longName

def purpose : Switch → String
  | config => "Configuration file path"
  | generateConfig => "Print an example configuration and exit"
  | password => "Shared password (at most 64 bytes)"
  | serverPort => "Listening port"
  | cert => "TLS certificate chain (PEM)"
  | privateKey => "TLS private key (PEM)"
  | debug => "Log socket buffer sizes while relaying"
  | sendBuffer => "SO_SNDBUF for accepted sockets"
  | recvBuffer => "SO_RCVBUF for the listening socket"
  | logLevel => "Log level (trace, debug, info, warn, error)"
  | help => "Print help"
  | version => "Print version"

def ofLongName? (name : List Char) : Option Switch :=
  all.find? fun switch => switch.longName.toList = name

def ofLetter? (letter : Char) : Option Switch :=
  all.find? fun switch => switch.letter? = some letter

end Switch

end TunnelServer.CommandLine
