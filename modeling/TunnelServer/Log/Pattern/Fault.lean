/-! # Faults in patterns

A fault names what is wrong with a pattern and where. It is shown with marks under the characters it
is about.
-/

namespace TunnelServer.Log.Pattern

/-- A stretch of a pattern: from a character up to before another. -/
structure Span where
  first : Nat
  last : Nat
deriving DecidableEq, Repr

/-- What can be wrong with a pattern. -/
inductive FaultKind where
  | classUnclosed
  | classRangeOrder
  | classRangeBound
  | classEscape
  | decimalInvalid
  | escapeIncomplete
  | escapeUnknown
  | hexDigit
  | hexValue
  | flagUnknown
  | flagRepeated
  | negationRepeated
  | negationDangling
  | flagsIncomplete
  | groupUnclosed
  | groupUnopened
  | nameIncomplete
  | nameInvalid
  | nameEmpty
  | nameRepeated
  | repetitionMissing
  | countUnclosed
  | countEmpty
  | boundaryUnclosed
  | boundaryOrCount
  | propertyInvalid
  | backreference
  | lookAround
  | propertyUnknown
  | propertyNotAllowed
  | shorthandUnavailable
  | foldingUnavailable
  | invalidUtf8
deriving DecidableEq, Repr

def FaultKind.message : FaultKind → String
  | classUnclosed => "unclosed character class"
  | classRangeOrder => "invalid character class range, the start must be <= the end"
  | classRangeBound => "invalid range boundary, must be a literal"
  | classEscape => "invalid escape sequence found in character class"
  | decimalInvalid => "decimal literal invalid"
  | escapeIncomplete => "incomplete escape sequence, reached end of pattern prematurely"
  | escapeUnknown => "unrecognized escape sequence"
  | hexDigit => "invalid hexadecimal digit"
  | hexValue => "hexadecimal literal is not a Unicode scalar value"
  | flagUnknown => "unrecognized flag"
  | flagRepeated => "duplicate flag"
  | negationRepeated => "flag negation operator repeated"
  | negationDangling => "dangling flag negation operator"
  | flagsIncomplete => "expected flag but got end of regex"
  | groupUnclosed => "unclosed group"
  | groupUnopened => "unopened group"
  | nameIncomplete => "unclosed capture group name"
  | nameInvalid => "invalid capture group character"
  | nameEmpty => "empty capture group name"
  | nameRepeated => "duplicate capture group name"
  | repetitionMissing => "repetition operator missing expression"
  | countUnclosed => "unclosed counted repetition"
  | countEmpty => "repetition quantifier expects a valid decimal"
  | boundaryUnclosed =>
    "special word boundary assertion is either unclosed or contains an invalid character"
  | boundaryOrCount =>
    "found either the beginning of a special word boundary or a bounded repetition on a \\b " ++
      "with an opening brace, but no closing brace"
  | propertyInvalid => "invalid Unicode character class"
  | backreference => "backreferences are not supported"
  | lookAround => "look-around, including look-ahead and look-behind, is not supported"
  | propertyUnknown => "Unicode property not found"
  | propertyNotAllowed => "Unicode not allowed here"
  | shorthandUnavailable =>
    "Unicode-aware Perl class not found (make sure the unicode-perl feature is enabled)"
  | foldingUnavailable =>
    "Unicode-aware case insensitivity matching is not available " ++
      "(make sure the unicode-case feature is enabled)"
  | invalidUtf8 => "pattern can match invalid UTF-8"

/-- A fault, where it is, and where the first of two things is that may not be there twice. -/
structure Fault where
  kind : FaultKind
  span : Span
  earlier : Option Span
deriving DecidableEq, Repr

/-- Marks under a stretch, at least one, behind what is marked already. -/
def mark (marks : List Char) (span : Span) : List Char :=
  marks ++ List.replicate (span.first - marks.length) ' ' ++
    List.replicate (max 1 (span.last - span.first)) '^'

/-- A pattern with a fault in it, and the marks under it. -/
def Fault.report (fault : Fault) (pattern : List Char) : String :=
  let marks := mark (fault.earlier.elim [] (mark [])) fault.span
  "regex parse error:\n    " ++ String.ofList pattern ++ "\n    " ++ String.ofList marks ++
    "\nerror: " ++ fault.kind.message

end TunnelServer.Log.Pattern
