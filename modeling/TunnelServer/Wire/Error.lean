import TunnelServer.Io.Error

/-! # Faults in the fields of the protocol -/

namespace TunnelServer

/-- Why a field could not be read or written. -/
inductive ProtocolError where
  | io (source : IoError)
  | stringTooLong (length : Nat)
  | invalidUtf8
  | passwordTooLong (length : Nat)
  | negativeTimeout (milliseconds : Int32)
deriving DecidableEq

def ProtocolError.message : ProtocolError → String
  | .io source => "IO error: " ++ source.message
  | .stringTooLong length => "String too long: " ++ toString length ++ " bytes"
  | .invalidUtf8 => "Invalid UTF-8 string"
  | .passwordTooLong length => "Password too long: " ++ toString length ++ " bytes (max 64)"
  | .negativeTimeout ms => "Negative timeout: " ++ toString ms.toInt ++ " ms"

end TunnelServer
