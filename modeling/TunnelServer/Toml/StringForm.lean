import TunnelServer.Text.Numeral

/-! # Writing strings

A string has four forms: between one or three quotes, where a backslash escapes, and between one or
three apostrophes, where nothing does. The first form that a string fits is taken. A tab fits all of
them, and is escaped between quotes. A string that fits none of them is escaped between quotes. A
string with line ends begins on a line of its own.
-/

namespace TunnelServer.Toml

def isControl (c : Char) : Bool := (c < ' ' ∧ c ≠ '\n') ∨ c = '\x7f'

/-- A control code that cannot stand in a string without being escaped. -/
def needsEscape (c : Char) : Bool := isControl c && c ≠ '\t'

/-- Whether a character occurs three times in a row. -/
def hasTriple (mark : Char) : List Char → Bool
  | a :: b :: c :: rest =>
    (a = mark ∧ b = mark ∧ c = mark) || hasTriple mark (b :: c :: rest)
  | _ => false

inductive StringForm where
  /-- Between one quote and another. -/
  | basic
  /-- Between one apostrophe and another. -/
  | literal
  /-- Between three quotes and three others. -/
  | longBasic
  /-- Between three apostrophes and three others. -/
  | longLiteral
deriving DecidableEq, Repr

/-- The form of a string that has to be escaped. -/
def StringForm.lastResort (text : List Char) : StringForm :=
  if '\n' ∈ text then .longBasic else .basic

def StringForm.choose (text : List Char) : StringForm :=
  if text.any needsEscape then lastResort text
  else if '"' ∉ text ∧ '\\' ∉ text ∧ '\n' ∉ text then .basic
  else if '\'' ∉ text ∧ '\n' ∉ text then .literal
  else if '\\' ∉ text ∧ !hasTriple '"' text then .longBasic
  else if !hasTriple '\'' text then .longLiteral
  else lastResort text

def largeHexDigit (n : Nat) : Char := Char.toUpper (Nat.digitChar n)

def escapeLetter? (c : Char) : Option Char :=
  if c = '\x08' then some 'b'
  else if c = '\t' then some 't'
  else if c = '\n' then some 'n'
  else if c = '\x0c' then some 'f'
  else if c = '\r' then some 'r'
  else if c = '"' then some '"'
  else if c = '\\' then some '\\'
  else none

def escapeChar (c : Char) : List Char :=
  match escapeLetter? c with
  | some letter => ['\\', letter]
  | none =>
    if isControl c then
      ['\\', 'u', '0', '0', largeHexDigit (c.toNat / 16), largeHexDigit (c.toNat % 16)]
    else [c]

/-- A text as it stands between three quotes. Line ends stay, and so do quotes unless they are the
third in a row; `quotes` is how many stand in a row before the text. -/
def escapeLong : Nat → List Char → List Char
  | _, [] => []
  | quotes, c :: rest =>
    if c = '\n' then '\n' :: escapeLong 0 rest
    else if c = '"' ∧ quotes < 2 then '"' :: escapeLong (quotes + 1) rest
    else escapeChar c ++ escapeLong 0 rest

/-- The line end after the opening delimiter of a string that has line ends. -/
def leadingBreak (text : List Char) : List Char := if '\n' ∈ text then ['\n'] else []

def StringForm.write (text : List Char) : StringForm → List Char
  | .basic => '"' :: text.flatMap escapeChar ++ ['"']
  | .literal => '\'' :: text ++ ['\'']
  | .longBasic => ['"', '"', '"'] ++ leadingBreak text ++ escapeLong 0 text ++ ['"', '"', '"']
  | .longLiteral => ['\'', '\'', '\''] ++ leadingBreak text ++ text ++ ['\'', '\'', '\'']

def writeString (text : String) : List Char :=
  (StringForm.choose text.toList).write text.toList

end TunnelServer.Toml
