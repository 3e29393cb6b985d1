/-! # Log records

A record has a level and a text. Records are kept in the order in which they were written.
-/

namespace TunnelServer

/-- How urgent a log record is, the most urgent first. -/
inductive Level where
  | error
  | warn
  | info
  | debug
  | trace
deriving DecidableEq, Repr

namespace Level

def name : Level → String
  | .error => "ERROR"
  | .warn => "WARN"
  | .info => "INFO"
  | .debug => "DEBUG"
  | .trace => "TRACE"

/-- Verbosity: a level is let through by a filter that reaches at least as far. -/
def rank : Level → Nat
  | .error => 1
  | .warn => 2
  | .info => 3
  | .debug => 4
  | .trace => 5

end Level

structure LogLine where
  level : Level
  message : String
deriving DecidableEq, Repr

def LogLine.render (line : LogLine) : String := line.level.name ++ " " ++ line.message

end TunnelServer
