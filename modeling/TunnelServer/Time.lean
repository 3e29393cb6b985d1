/-! # Milliseconds

Times and time limits are natural numbers that count milliseconds. This module holds the fixed
limits of the protocol and the way a limit is shown.
-/

namespace TunnelServer

namespace Millis

/-- Time limit of each read before the status byte, where none is configured. -/
def handshakeDefault : Nat := 10000

/-- Time limit of reads on both sides while relaying, where none is configured. -/
def transferDefault : Nat := 300000

/-- Time limit of resolving and of connecting, where none is configured. -/
def connectDefault : Nat := 10000

/-- How long a finished relay waits for its peer, where nothing is configured. -/
def peerJoinDefault : Nat := 10000

/-- How long an orderly close waits for a sink to shut down. -/
def closeLimit : Nat := 5000

def dropTrailingZeros (digits : List Char) : List Char :=
  (digits.reverse.dropWhile (· = '0')).reverse

def threeDigits (n : Nat) : List Char :=
  [n / 100 % 10, n / 10 % 10, n % 10].map Nat.digitChar

/-- The shortest exact text: nothing is `0ns`, less than a second counts milliseconds, and longer
times count seconds with as many of the three decimals as are needed. -/
def render (t : Nat) : String :=
  if t = 0 then "0ns"
  else if t < 1000 then toString t ++ "ms"
  else
    match dropTrailingZeros (threeDigits (t % 1000)) with
    | [] => toString (t / 1000) ++ "s"
    | decimals => toString (t / 1000) ++ "." ++ String.ofList decimals ++ "s"

end Millis

end TunnelServer
