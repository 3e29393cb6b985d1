import TunnelServer.Log.Pattern.Reader
import TunnelServer.Text.Numeral

/-! # Single characters in patterns

A pattern names characters by themselves, by number, or by a class with a short name. All escapes
begin with a backslash.
-/

namespace TunnelServer.Log.Pattern

/-- What stands for one place in a pattern. -/
inductive Atom where
  /-- A character by its number; `byte` tells one written as two digits. -/
  | literal (value : Nat) (byte : Bool)
  /-- A class with one letter for its name. -/
  | shorthand (negated : Bool)
  /-- The characters with a property. -/
  | property
  /-- A place between characters, perhaps at the edge of a word. -/
  | assertion (word : Bool)
deriving DecidableEq, Repr

/-- A character that means something else without a backslash. -/
def isMeta (c : Char) : Bool := c ∈ "\\.+*?()|[]\x7b\x7d^$#&-~".toList

/-- A character that means itself behind a backslash. -/
def isPlainEscape (c : Char) : Bool :=
  isMeta c || (c.toNat < 0x80 && !c.isAlphanum && c ≠ '<' && c ≠ '>')

def controlValue? (c : Char) : Option Nat :=
  [('a', 7), ('t', 9), ('n', 10), ('v', 11), ('f', 12), ('r', 13)].lookup c

/-! ## Characters by number -/

/-- Reads digits up to so many more, behind those that were read. -/
def hexDigits : Nat → Nat → Reader Nat
  | 0, value => return value
  | count + 1, value => do
    match ← peek? with
    | none => let place ← here; failAt .escapeIncomplete place place
    | some c =>
      match Numeral.digitValue? 16 c with
      | none => let place ← here; failAt .hexDigit place (place + 1)
      | some digit => do
        step
        hexDigits count (value * 16 + digit)

/-- Reads digits behind a brace. There is no brace to close them. -/
def bracedDigits : Nat → Nat → Reader Nat
  | 0, brace => do failAt .escapeIncomplete brace (← here)
  | bound + 1, brace => do
    match ← peek? with
    | none => failAt .escapeIncomplete brace (← here)
    | some c =>
      if (Numeral.digitValue? 16 c).isSome then
        step
        bracedDigits bound brace
      else
        let place ← here
        failAt .hexDigit place (place + 1)

def numbered (count : Nat) : Reader Nat := do
  step
  let start ← here
  match ← peek? with
  | none => failAt .escapeIncomplete start start
  | some c =>
    if c = '\x7b' then
      step
      bracedDigits (← get).rest.length start
    else
      let value ← hexDigits count 0
      if value < 0xd800 ∨ (0xdfff < value ∧ value ≤ 0x10ffff) then return value
      else failAt .hexValue start (← here)

/-! ## Properties and word edges -/

/-- Reads a property of one letter. One in braces is not complete, as there is no brace to close
it. -/
def property : Reader Atom := do
  step
  let start ← here
  match ← peek? with
  | none => failAt .escapeIncomplete start start
  | some c =>
    if c = '\x7b' then
      skip (← get).rest.length
      let last ← here
      failAt .escapeIncomplete last last
    else if c = '\\' then failAt .propertyInvalid start (start + 1)
    else
      step
      return .property

/-- A character in the name of a kind of word edge. -/
def isEdgeName (c : Char) : Bool := c.isAlpha || c = '-'

def skipEdgeName : Nat → Reader Unit
  | 0 => return ()
  | bound + 1 => do
    match ← peek? with
    | none => return ()
    | some c =>
      if isEdgeName c then
        step
        skipEdgeName bound

/-- Reads what follows the edge of a word that began at a place. A name in braces is not complete;
without a name the brace stays for a repetition. -/
def edgeKind (start : Nat) : Reader Unit := do
  if (← peek?) = some '\x7b' then
    let before ← get
    step
    match ← peek? with
    | none => failAt .boundaryOrCount start (← here)
    | some c =>
      if isEdgeName c then
        skipEdgeName (← get).rest.length
        failAt .boundaryUnclosed before.place (← here)
      else set before

/-! ## Escapes -/

def escape : Reader (Atom × Span) := do
  let start ← here
  skip 1
  match ← peek? with
  | none => failAt .escapeIncomplete start (← here)
  | some c =>
    if c.isDigit then failAt .backreference start ((← here) + 1)
    else
      let atom : Atom ←
        if c = 'x' then do pure (.literal (← numbered 2) true)
        else if c = 'u' then do pure (.literal (← numbered 4) false)
        else if c = 'U' then do pure (.literal (← numbered 8) false)
        else if c = 'p' ∨ c = 'P' then property
        else do
          skip 1
          if c ∈ ['d', 's', 'w', 'D', 'S', 'W'] then pure (.shorthand c.isUpper)
          else if isPlainEscape c then pure (.literal c.toNat false)
          else if let some value := controlValue? c then pure (.literal value false)
          else if c = 'b' then do
            edgeKind start
            pure (.assertion true)
          else if c = 'B' ∨ c = '<' ∨ c = '>' then pure (.assertion true)
          else if c = 'A' ∨ c = 'z' then pure (.assertion false)
          else failAt .escapeUnknown start (← here)
      return (atom, ⟨start, ← here⟩)

/-! ## Meaning -/

/-- Keeps what is wrong with the meaning of an atom, within a class or by itself. There are no
tables for properties and for letters of other scripts, and no byte may be matched that is not part
of a character. -/
def examine (inClass : Bool) (atom : Atom) (span : Span) : Reader Unit := do
  let flags := (← get).flags
  match atom with
  | .literal value byte =>
    if flags.unicode then
      if flags.folded && !inClass then keepDoubt .foldingUnavailable span
    else if byte && 0x80 ≤ value then keepDoubt .invalidUtf8 span
    else if inClass && 0x80 ≤ value then keepDoubt .propertyNotAllowed span
  | .shorthand negated =>
    if flags.unicode then keepDoubt .shorthandUnavailable span
    else if negated then keepDoubt .invalidUtf8 span
  | .property =>
    keepDoubt (if flags.unicode then .propertyUnknown else .propertyNotAllowed) span
  | .assertion word =>
    if word && flags.unicode then modify fun state => { state with boundary := true }

end TunnelServer.Log.Pattern
