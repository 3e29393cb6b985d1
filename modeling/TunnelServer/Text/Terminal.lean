import TunnelServer.Text.Utf8

/-! # Text for terminals

A text may hold control sequences, which a terminal obeys instead of showing them. Where the output
is no terminal they are left out, and so are control characters other than line ends, tabs and form
feeds. A sequence is left out up to its end, or up to where the next one begins.
-/

namespace TunnelServer.Terminal

/-- Where a reader of control sequences stands between two bytes. -/
inductive Stage where
  | ground
  /-- Inside a character, of which some bytes are due. -/
  | character (due : Nat)
  | escape
  /-- Behind an escape with bytes that only the last one gives a meaning. -/
  | escapeMore
  | control
  /-- In front of the data of a device. -/
  | deviceHeader
  | deviceData
  | systemCommand
deriving DecidableEq, Repr

def isBlank (b : UInt8) : Bool := b = 9 || b = 10 || b = 12 || b = 13

/-- How many bytes follow the first byte of a character beyond ASCII. -/
def bytesDue? (b : UInt8) : Option Nat :=
  if 0xc2 ≤ b ∧ b ≤ 0xdf then some 1
  else if 0xe0 ≤ b ∧ b ≤ 0xef then some 2
  else if 0xf0 ≤ b ∧ b ≤ 0xf4 then some 3
  else none

/-- What a byte at a stage leads to, unless it leaves the stage as it is. -/
def Stage.change? (stage : Stage) (b : UInt8) : Option Stage :=
  if b = 0x1b then some .escape
  else if b = 0x18 ∨ b = 0x1a then some .ground
  else
    match stage with
    | .ground | .character _ => (bytesDue? b).map .character
    | .escape =>
      if b < 0x20 ∨ 0x7f ≤ b then none
      else if b < 0x30 then some .escapeMore
      else if b = 0x5b then some .control
      else if b = 0x5d then some .systemCommand
      else if b = 0x50 then some .deviceHeader
      else if b = 0x58 ∨ b = 0x5e ∨ b = 0x5f then some .deviceData
      else some .ground
    | .escapeMore => if 0x30 ≤ b ∧ b < 0x7f then some .ground else none
    | .control => if 0x40 ≤ b ∧ b < 0x7f then some .ground else none
    | .deviceHeader => if 0x40 ≤ b ∧ b < 0x7f then some .deviceData else none
    | .deviceData => if b = 0x9c then some .ground else none
    | .systemCommand => if b = 0x07 then some .ground else none

def Stage.shows (stage : Stage) (b : UInt8) : Bool :=
  match stage with
  | .ground | .character _ => isBlank b || (0x20 ≤ b && b < 0x7f) || (bytesDue? b).isSome
  | .escape | .escapeMore | .control => isBlank b
  | .deviceHeader | .deviceData | .systemCommand => false

/-- What is shown of some bytes. Once something is shown, all that can be shown is, until something
cannot; `showing` says that this goes on. -/
def shown (showing : Bool) (stage : Stage) : List UInt8 → List UInt8
  | [] => []
  | b :: rest =>
    match stage with
    | .character (due + 1) =>
      b :: shown true (if due = 0 then .ground else .character due) rest
    | stage =>
      let here := if showing then Stage.ground else stage
      let next := (here.change? b).getD stage
      if here.shows b then b :: shown true next rest
      else shown false (if showing then (next.change? b).getD next else next) rest

/-- A text without what only a terminal understands. -/
def plain (text : String) : String := Utf8.lenient (shown false .ground (Utf8.encode text))

def highlight (text : String) : String := "\x1b[33m" ++ text ++ "\x1b[0m"

end TunnelServer.Terminal
