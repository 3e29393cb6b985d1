/-! # The status byte

The server answers an authenticated client with one byte. It only ever sends `ok`; the other codes
belong to the vocabulary that it shares with clients.
-/

namespace TunnelServer

/-- What a status byte can say. -/
inductive Status where
  | ok
  | generalFailure
  | notAllowed
  | networkUnreachable
  | hostUnreachable
  | connectionRefused
  | ttlExpired
  | protocolViolation
  | addressTypeNotSupported
deriving DecidableEq, Repr

namespace Status

def all : List Status :=
  [ok, generalFailure, notAllowed, networkUnreachable, hostUnreachable, connectionRefused,
    ttlExpired, protocolViolation, addressTypeNotSupported]

def code : Status → UInt8
  | ok => 0
  | generalFailure => 1
  | notAllowed => 2
  | networkUnreachable => 3
  | hostUnreachable => 4
  | connectionRefused => 5
  | ttlExpired => 6
  | protocolViolation => 7
  | addressTypeNotSupported => 8

end Status

end TunnelServer
