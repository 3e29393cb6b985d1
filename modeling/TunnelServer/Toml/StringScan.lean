import TunnelServer.Text.Numeral
import TunnelServer.Toml.Scanner

/-! # Reading strings

Reads each of the four forms. A line end right after three opening delimiters does not count; a
backslash at the end of a line joins it with the next text; and up to two delimiters may stand
directly before the closing three. The texts read so far are kept in reverse.
-/

namespace TunnelServer.Toml

def codePoint? (digits : List Char) : Option Char := do
  let value ← Numeral.read? 16 digits
  if value.isValidChar then some (Char.ofNat value) else none

def escapeMeaning? (letter : Char) : Option Char :=
  if letter = 'b' then some '\x08'
  else if letter = 't' then some '\t'
  else if letter = 'n' then some '\n'
  else if letter = 'f' then some '\x0c'
  else if letter = 'r' then some '\r'
  else if letter = '"' then some '"'
  else if letter = '\\' then some '\\'
  else none

/-- What a backslash and the text after it stand for: a character, and the text that is left. -/
def readEscape? : List Char → Option (Char × List Char)
  | 'u' :: a :: b :: c :: d :: rest => (codePoint? [a, b, c, d]).map (·, rest)
  | 'U' :: a :: b :: c :: d :: e :: f :: g :: h :: rest =>
    (codePoint? [a, b, c, d, e, f, g, h]).map (·, rest)
  | letter :: rest => (escapeMeaning? letter).map (·, rest)
  | [] => none

/-- What follows three closing delimiters: of up to two more, each belongs to the text. -/
def closeLong (mark : Char) (done : List Char) (text : List Char) :
    Option (String × List Char) :=
  let extra := (text.takeWhile (· = mark)).length
  if extra ≤ 2 then
    some (String.ofList (done.reverse ++ List.replicate extra mark), text.drop extra)
  else none

/-- The rest of a text between quotes. The first argument bounds its length. -/
def readBasic? : Nat → List Char → List Char → Option (String × List Char)
  | 0, _, _ => none
  | _, _, [] => none
  | bound + 1, done, c :: rest =>
    if c = '"' then some (String.ofList done.reverse, rest)
    else if c = '\\' then do
      let (meaning, rest) ← readEscape? rest
      readBasic? bound (meaning :: done) rest
    else if isPlain c then readBasic? bound (c :: done) rest
    else none

def readLiteral? (text : List Char) : Option (String × List Char) :=
  let inside (c : Char) : Bool := isPlain c ∧ c ≠ '\''
  match text.dropWhile inside with
  | '\'' :: rest => some (String.ofList (text.takeWhile inside), rest)
  | _ => none

/-- Whether only blanks stand before the next line end. -/
def endsLine (text : List Char) : Bool := (text.dropWhile isBlank).head? = some '\n'

/-- The rest of a text between three quotes. The first argument bounds its length. -/
def readLongBasic? : Nat → List Char → List Char → Option (String × List Char)
  | 0, _, _ => none
  | _, _, [] => none
  | _, done, '"' :: '"' :: '"' :: rest => closeLong '"' done rest
  | bound + 1, done, c :: rest =>
    if c = '\\' then
      if endsLine rest then
        readLongBasic? bound done (rest.dropWhile fun c => isBlank c ∨ c = '\n')
      else do
        let (meaning, rest) ← readEscape? rest
        readLongBasic? bound (meaning :: done) rest
    else if isPlain c ∨ c = '\n' then readLongBasic? bound (c :: done) rest
    else none

def readLongLiteral? : List Char → List Char → Option (String × List Char)
  | _, [] => none
  | done, '\'' :: '\'' :: '\'' :: rest => closeLong '\'' done rest
  | done, c :: rest =>
    if isPlain c ∨ c = '\n' then readLongLiteral? (c :: done) rest else none

def dropBreak : List Char → List Char
  | '\n' :: rest => rest
  | text => text

namespace Scanner

def shortString : Scanner String
  | '"' :: rest => readBasic? (rest.length + 1) [] rest
  | '\'' :: rest => readLiteral? rest
  | _ => none

def string : Scanner String
  | '"' :: '"' :: '"' :: rest => readLongBasic? (rest.length + 1) [] (dropBreak rest)
  | '\'' :: '\'' :: '\'' :: rest => readLongLiteral? [] (dropBreak rest)
  | text => shortString text

end Scanner

end TunnelServer.Toml
