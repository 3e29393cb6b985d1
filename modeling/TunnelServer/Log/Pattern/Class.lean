import TunnelServer.Log.Pattern.Atom

/-! # Classes in patterns

A class stands in brackets and lists characters, ranges of them and other classes. Classes can be
combined by doubled signs between them.
-/

namespace TunnelServer.Log.Pattern

/-- A class that is open: its beginning up to the first thing listed, and whether it stands for all
other characters. -/
structure OpenClass where
  span : Span
  negated : Bool
deriving DecidableEq, Repr

/-- Passes over hyphens at the beginning of a class that began at a place. -/
def skipHyphens (start : Nat) : Nat → Reader Bool
  | 0 => return false
  | bound + 1 => do
    if (← peek?) = some '-' then
      step
      if ← atEnd then failAt .classUnclosed start start
      let _ ← skipHyphens start bound
      return true
    else return false

/-- Reads the beginning of a class: a bracket, perhaps a negation, then hyphens or a closing bracket
that stand for themselves. -/
def openClass : Reader OpenClass := do
  let start ← here
  step
  if ← atEnd then failAt .classUnclosed start (← here)
  let negated := (← peek?) = some '^'
  if negated then
    step
    if ← atEnd then failAt .classUnclosed start (← here)
  let hyphens ← skipHyphens start (← get).rest.length
  if !hyphens && (← peek?) = some ']' then
    step
    if ← atEnd then failAt .classUnclosed start (← here)
  return ⟨⟨start, ← here⟩, negated⟩

def classNames : List String :=
  ["alnum", "alpha", "ascii", "blank", "cntrl", "digit", "graph", "lower", "print", "punct",
    "space", "upper", "word", "xdigit"]

/-- How long a class with a name between colons is, and whether it stands for all other
characters. -/
def namedClass? (text : List Char) : Option (Nat × Bool) :=
  match text with
  | '[' :: ':' :: inner =>
    let negated := inner.head? = some '^'
    let name := (if negated then inner.drop 1 else inner).takeWhile (· ≠ ':')
    let length := name.length + if negated then 3 else 2
    if (text.drop length).take 2 = [':', ']'] ∧ String.ofList name ∈ classNames then
      some (length + 2, negated)
    else none
  | _ => none

/-- One thing in a class: an escape, or a character that stands for itself. -/
def classAtom : Reader (Atom × Span) := do
  match ← peek? with
  | some '\\' => escape
  | some c =>
    let place ← here
    skip 1
    return (.literal c.toNat false, ⟨place, place + 1⟩)
  | none => let place ← here; failAt .classUnclosed place place

def boundValue (atom : Atom) (span : Span) : Reader Nat :=
  match atom with
  | .literal value _ => return value
  | _ => failAt .classRangeBound span.first span.last

/-- Reads one thing or a range in the class that is open. -/
def classItem (unclosed : Span) : Reader Unit := do
  let (atom, span) ← classAtom
  skipGap
  if ← atEnd then failAt .classUnclosed unclosed.first unclosed.last
  let next ← peekBehind?
  if (← peek?) ≠ some '-' ∨ next = some ']' ∨ next = some '-' then
    match atom with
    | .assertion _ => failAt .classEscape span.first span.last
    | _ => examine true atom span
  else
    step
    if ← atEnd then failAt .classUnclosed unclosed.first unclosed.last
    let (other, otherSpan) ← classAtom
    let low ← boundValue atom span
    let high ← boundValue other otherSpan
    if high < low then failAt .classRangeOrder span.first otherSpan.last
    examine true atom span
    examine true other otherSpan

/-- Keeps what is wrong with the meaning of a class as a whole. -/
def examineClass (negated : Bool) (span : Span) : Reader Unit := do
  let flags := (← get).flags
  if flags.unicode then
    if flags.folded then keepDoubt .foldingUnavailable span
  else if negated then keepDoubt .invalidUtf8 span

/-- Reads on in classes that are open, the innermost first. The number bounds the steps. -/
def readClasses : Nat → List OpenClass → Reader Unit
  | 0, _ => return ()
  | _, [] => return ()
  | bound + 1, current :: outer => do
    skipGap
    let state ← get
    match state.rest with
    | [] => failAt .classUnclosed current.span.first current.span.last
    | '[' :: _ =>
      match namedClass? state.rest with
      | some (length, negated) =>
        skip length
        examineClass negated ⟨state.place, ← here⟩
        readClasses bound (current :: outer)
      | none => readClasses bound ((← openClass) :: current :: outer)
    | ']' :: _ =>
      skip 1
      examineClass current.negated ⟨current.span.first, ← here⟩
      readClasses bound outer
    | '&' :: '&' :: _ | '-' :: '-' :: _ | '~' :: '~' :: _ =>
      skip 2
      readClasses bound (current :: outer)
    | _ =>
      classItem current.span
      readClasses bound (current :: outer)

def readClass : Reader Unit := do
  let bound := (← get).rest.length
  readClasses bound [← openClass]

end TunnelServer.Log.Pattern
