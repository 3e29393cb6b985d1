/-! # Scanning

A scanner takes something from the front of a text, or fails. Line ends are unified before scanning:
a carriage return may stand only before a line feed.
-/

namespace TunnelServer.Toml

/-- Takes something from the front of a text. -/
abbrev Scanner := StateT (List Char) Option

/-- The text with each line end as one line feed. -/
def unifyLineEnds : List Char → Option (List Char)
  | [] => some []
  | '\r' :: '\n' :: rest => (unifyLineEnds rest).map ('\n' :: ·)
  | c :: rest => if c = '\r' then none else (unifyLineEnds rest).map (c :: ·)

def isBlank (c : Char) : Bool := c = ' ' ∨ c = '\t'

/-- A character that may stand in a comment or a string: no control code but the tab. -/
def isPlain (c : Char) : Bool := c = '\t' ∨ (' ' ≤ c ∧ c ≠ '\x7f')

/-- Blanks, line ends and comments. The first argument says whether a comment has begun. -/
def skipGaps : Bool → List Char → List Char
  | _, [] => []
  | false, c :: rest =>
    if isBlank c ∨ c = '\n' then skipGaps false rest
    else if c = '#' then skipGaps true rest
    else c :: rest
  | true, c :: rest =>
    if c = '\n' then skipGaps false rest
    else if isPlain c then skipGaps true rest
    else c :: rest

namespace Scanner

def peek? : Scanner (Option Char) := fun text => some (text.head?, text)

def run (p : Char → Bool) : Scanner (List Char) := fun text =>
  some (text.takeWhile p, text.dropWhile p)

def expect (c : Char) : Scanner Unit
  | d :: rest => if d = c then some ((), rest) else none
  | [] => none

def accept (c : Char) : Scanner Bool
  | d :: rest => if d = c then some (true, rest) else some (false, d :: rest)
  | [] => some (false, [])

def blanks : Scanner Unit := do
  let _ ← run isBlank

def gaps : Scanner Unit := fun text => some ((), skipGaps false text)

/-- Skips the rest of a line: blanks, perhaps a comment, and the line end or the end of the text. -/
def lineEnd : Scanner Unit := do
  blanks
  if ← accept '#' then
    let _ ← run isPlain
  match ← peek? with
  | none => return ()
  | some _ => expect '\n'

end Scanner

end TunnelServer.Toml
