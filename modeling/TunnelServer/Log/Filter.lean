import TunnelServer.Log
import TunnelServer.Log.Pattern.Check
import TunnelServer.Text.LetterOrNumber
import TunnelServer.Text.Numeral
import TunnelServer.Text.Split
import TunnelServer.Text.White

/-! # Log filters

A filter is a list of directives with commas between them. A directive is a level, a target, or a
target and a level with a sign of equality between them; the target may be followed by a span and
fields in brackets. A record is let through if its level is within that of the directive whose
target is the longest beginning of the record's own target. Directives that name a span apply within
that span alone, which the records of this program are never in.
-/

namespace TunnelServer.Log

/-- How far a directive reaches: nothing at zero, everything at five. -/
abbrev Reach := Nat

/-- The reach of a filter without directives: errors alone. -/
def Reach.least : Reach := Level.error.rank

/-- The reach of a directive that has no level: everything. -/
def Reach.all : Reach := Level.trace.rank

/-- Why a text is no filter. -/
inductive FilterFault where
  | directive
  | level
  /-- A field's pattern cannot be used, for the reasons given, the outermost first. -/
  | field (reason : String) (reasons : List String)
deriving DecidableEq, Repr

def levelMessage : String :=
  "error parsing level filter: expected one of \"off\", \"error\", \"warn\", \"info\", " ++
    "\"debug\", \"trace\", or a number 0-5"

def FilterFault.causes : FilterFault → List String
  | .directive => ["invalid filter directive"]
  | .level => [levelMessage, levelMessage]
  | .field reason reasons => ("invalid field filter: " ++ reason) :: reason :: reasons

/-- A condition on a field: its name, and whether it has to have a value. -/
structure FieldMatch where
  name : List Char
  valued : Bool
deriving DecidableEq

structure Directive where
  target : Option (List Char)
  reach : Reach
  /-- Whether it applies within a span alone. -/
  spanNamed : Bool
  fields : List FieldMatch
deriving DecidableEq

/-- Where a record comes from within the program. -/
inductive Origin where
  | server
  | tls
deriving DecidableEq, Repr

def Origin.target : Origin → String
  | .server => "smartproxy_server"
  | .tls => "smartproxy::transport::tls"

/-! ## Levels -/

def lowered (text : List Char) : List Char := text.map Char.toLower

def namedReach? (text : List Char) : Option Reach :=
  [("off".toList, 0), ("error".toList, 1), ("warn".toList, 2), ("info".toList, 3),
    ("debug".toList, 4), ("trace".toList, 5)].lookup (lowered text)

/-- The reach with a number, which may have a plus sign. -/
def numberedReach? (text : List Char) : Option Reach :=
  let digits := match text with
    | '+' :: digits => digits
    | digits => digits
  (Numeral.read? 10 digits).filter (· ≤ Reach.all)

def Reach.read? (text : List Char) : Option Reach :=
  if text.isEmpty then some .least
  else
    match numberedReach? text with
    | some reach => some reach
    | none => namedReach? text

/-- Reads the level after a sign of equality; without one everything is meant. -/
def Reach.readAfterTarget (text : List Char) : Except FilterFault Reach :=
  if text.isEmpty then .ok .all
  else
    match Reach.read? text with
    | some reach => .ok reach
    | none => .error .level

/-! ## Directives -/

/-- What is being read; a number is the place where it began. -/
inductive Stage where
  | start
  | levelOrTarget
  | span (start : Nat)
  | field (start : Nat)
  | fieldsDone
  | bracketsDone
  | level (start : Nat)

def beginsTarget (c : Char) : Bool :=
  c = '-' || c = ':' || c = '_' || Text.isLetterOrNumber c

def dropBytes : Nat → List Char → List Char
  | 0, text => text
  | _, [] => []
  | count, c :: rest => dropBytes (count - c.utf8Size) rest

def takeBytes : Nat → List Char → List Char
  | 0, _ => []
  | _, [] => []
  | count, c :: rest => c :: takeBytes (count - c.utf8Size) rest

/-- The part of a text between two places, which are counted in bytes. -/
def slice (text : List Char) (first last : Nat) : List Char :=
  dropBytes first (takeBytes last text)

/-- Whether digits and perhaps a point among them are all of a text. -/
def isDecimal (text : List Char) : Bool :=
  let whole := text.takeWhile Char.isDigit
  match text.dropWhile Char.isDigit with
  | [] => !whole.isEmpty
  | c :: fraction => c = '.' && fraction.all Char.isDigit && !(whole ++ fraction).isEmpty

/-- Whether a text is a decimal number, perhaps with an exponent, or the name of a value that is no
finite number. -/
def isNumber (text : List Char) : Bool :=
  let unsigned := match text with
    | '+' :: rest | '-' :: rest => rest
    | rest => rest
  let mantissa := unsigned.takeWhile fun c => c.toLower ≠ 'e'
  lowered unsigned ∈ ["inf".toList, "infinity".toList, "nan".toList] ||
    (isDecimal mantissa &&
      match unsigned.drop mantissa.length with
      | [] => true
      | _ :: '+' :: digits | _ :: '-' :: digits | _ :: digits =>
        !digits.isEmpty && digits.all Char.isDigit)

/-- Why the value of a field cannot be looked for: it is neither a number nor a usable pattern. -/
def valueFaults (value : List Char) : List String :=
  if isNumber value then [] else Pattern.faults value

/-- Adds a condition on a field. What stands behind a second sign of equality does not matter. -/
def addField (text : List Char) (directive : Directive) :
    Except FilterFault Directive :=
  match Text.splitOn '=' text with
  | [] | [[]] => .error .directive
  | [name] => .ok { directive with fields := directive.fields ++ [⟨name, false⟩] }
  | name :: value :: _ =>
    match valueFaults value with
    | [] => .ok { directive with fields := directive.fields ++ [⟨name, true⟩] }
    | reason :: reasons => .error (.field reason reasons)

def advance (text : List Char) (place : Nat) (c : Char) (stage : Stage)
    (directive : Directive) : Except FilterFault (Stage × Directive) :=
  match stage with
  | .start =>
    if c = '[' then .ok (.span (place + 1), directive)
    else if beginsTarget c then .ok (.levelOrTarget, directive)
    else .error .directive
  | .levelOrTarget =>
    let named := { directive with target := some (slice text 0 place) }
    if c = '=' then .ok (.level (place + 1), named)
    else if c = '[' then .ok (.span (place + 1), named)
    else .ok (.levelOrTarget, directive)
  | .span start =>
    if c = ']' then .ok (.bracketsDone, { directive with spanNamed := true })
    else if c = '\x7b' then
      .ok (.field (place + 1), { directive with spanNamed := start < place })
    else .ok (.span start, directive)
  | .field start =>
    if c = '\x7d' then
      (addField (slice text start place) directive).map fun directive => (.fieldsDone, directive)
    else .ok (.field start, directive)
  | .fieldsDone => if c = ']' then .ok (.bracketsDone, directive) else .error .directive
  | .bracketsDone => if c = '=' then .ok (.level (place + 1), directive) else .error .directive
  | .level start => .ok (.level start, directive)

def advanceAll (text : List Char) : Nat → List Char → Stage → Directive →
    Except FilterFault (Stage × Directive)
  | _, [], stage, directive => .ok (stage, directive)
  | place, c :: rest, stage, directive => do
    let (stage, directive) ← advance text place c stage directive
    advanceAll text (place + c.utf8Size) rest stage directive

/-- Reads a directive. Blanks at its ends are passed over when it is taken apart, while its parts
are cut out of the whole text. -/
def Directive.read (text : List Char) : Except FilterFault Directive := do
  let (stage, directive) ←
    advanceAll text 0 (Text.trim text) .start ⟨none, .all, false, []⟩
  match stage with
  | .levelOrTarget =>
    match Reach.read? text with
    | some reach => return { directive with reach }
    | none => return { directive with target := some text }
  | .level start =>
    return { directive with reach := ← Reach.readAfterTarget (dropBytes start text) }
  | .bracketsDone => return directive
  | _ => .error .directive

/-! ## Filters -/

structure Filter where
  directives : List Directive
deriving DecidableEq

namespace Filter

def fallback : Directive := ⟨none, .least, false, []⟩

/-- Reads a filter. Empty directives do not count. -/
def read (text : String) : Except FilterFault Filter := do
  let parts := (Text.splitOn ',' text.toList).filter (!·.isEmpty)
  match ← parts.mapM Directive.read with
  | [] => return ⟨[fallback]⟩
  | directives => return ⟨directives⟩

/-- Whether a directive speaks about records with a target. The only field of a record is its
message. -/
def concerns (target : String) (directive : Directive) : Bool :=
  !directive.spanNamed &&
    (directive.fields.all fun field => !field.valued && field.name = "message".toList) &&
    (directive.target.all fun beginning => beginning.isPrefixOf target.toList)

/-- How closely a directive describes its records: the longer target first, then more fields. -/
def closeness (directive : Directive) : Nat × Nat :=
  (match directive.target with
    | some target => target.length + 1
    | none => 0, directive.fields.length)

def atLeastAsClose (first second : Directive) : Bool :=
  let a := closeness first
  let b := closeness second
  b.1 < a.1 || (a.1 = b.1 && b.2 ≤ a.2)

/-- The closest directive about records with a target, of several the last. -/
def governing? (filter : Filter) (target : String) : Option Directive :=
  (filter.directives.filter (concerns target)).foldl (fun best directive =>
    match best with
    | none => some directive
    | some other => if atLeastAsClose directive other then some directive else some other) none

def admits (filter : Filter) (origin : Origin) (level : Level) : Bool :=
  (filter.governing? origin.target).any fun directive => level.rank ≤ directive.reach

end Filter

end TunnelServer.Log
