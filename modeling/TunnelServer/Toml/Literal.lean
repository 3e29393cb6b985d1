import TunnelServer.Text.Numeral
import TunnelServer.Toml.Scanner
import TunnelServer.Toml.Value

/-! # Numbers, truth values and dates

Values that are written without delimiters. A token is taken up to the next character that cannot
belong to one, and then has to be an integer, a number with a point or an exponent, a date or time,
or a word, as a whole.
-/

namespace TunnelServer.Toml

def integerRange (n : Int) : Bool := -9223372036854775808 ≤ n ∧ n ≤ 9223372036854775807

/-- Digits without the underscores between them. An underscore has a digit on both sides. -/
def joinDigits? (base : Nat) : List Char → Option (List Char)
  | [] => none
  | [c] => if Numeral.isDigit base c then some [c] else none
  | c :: '_' :: rest =>
    if Numeral.isDigit base c then (joinDigits? base rest).map (c :: ·) else none
  | c :: rest => if Numeral.isDigit base c then (joinDigits? base rest).map (c :: ·) else none

def splitSign : List Char → Bool × List Char
  | '+' :: rest => (false, rest)
  | '-' :: rest => (true, rest)
  | text => (false, text)

/-- The digits of a whole number: none but a single one may begin with zero. -/
def wholeDigits? (text : List Char) : Option (List Char) := do
  let digits ← joinDigits? 10 text
  if digits.head? = some '0' ∧ 1 < digits.length then none else some digits

def signed (negative : Bool) (n : Nat) : Int := if negative then -n else n

/-- An integer within the range, in decimal or with a prefix for another base. -/
def readInteger? (text : List Char) : Option Int := do
  let value ← match text with
    | '0' :: 'x' :: digits => (joinDigits? 16 digits >>= Numeral.read? 16).map Int.ofNat
    | '0' :: 'o' :: digits => (joinDigits? 8 digits >>= Numeral.read? 8).map Int.ofNat
    | '0' :: 'b' :: digits => (joinDigits? 2 digits >>= Numeral.read? 2).map Int.ofNat
    | text =>
      let (negative, digits) := splitSign text
      (wholeDigits? digits >>= Numeral.read? 10).map (signed negative)
  if integerRange value then some value else none

/-- A text cut at the first character of a class, which is left out. -/
def cutAt (p : Char → Bool) (text : List Char) : List Char × Option (List Char) :=
  match text.dropWhile (!p ·) with
  | [] => (text, none)
  | _ :: after => (text.takeWhile (!p ·), some after)

def readExponent? : Option (List Char) → Option Int
  | none => some 0
  | some text => do
    let (negative, digits) := splitSign text
    let value ← joinDigits? 10 digits >>= Numeral.read? 10
    return signed negative value

/-- A number with a point, an exponent, or both. One that is too large is refused, unless it is
negative. -/
def readFloat? (text : List Char) : Option Binary64 := do
  let (negative, text) := splitSign text
  if text = ['i', 'n', 'f'] then return .infinite negative
  if text = ['n', 'a', 'n'] then return .nan
  let (mantissa, exponent) := cutAt (fun c => c = 'e' ∨ c = 'E') text
  let (whole, fraction) := cutAt (· = '.') mantissa
  if exponent.isNone ∧ fraction.isNone then none
  let whole ← wholeDigits? whole
  let fraction ← match fraction with
    | none => pure []
    | some digits => joinDigits? 10 digits
  let digits ← Numeral.read? 10 (whole ++ fraction)
  let value := Binary64.ofDecimal negative digits ((← readExponent? exponent) - fraction.length)
  if value = .infinite false then none else some value

/-! ## Dates and times -/

def fixedDigits? (count : Nat) (text : List Char) : Option (Nat × List Char) :=
  let digits := text.take count
  if digits.length = count then (Numeral.read? 10 digits).map (·, text.drop count) else none

/-- A number of two digits that is at most `most`. -/
def twoDigits? (most : Nat) (text : List Char) : Option (Nat × List Char) := do
  let (value, rest) ← fixedDigits? 2 text
  if value ≤ most then some (value, rest) else none

def daysIn (year month : Nat) : Nat :=
  if month = 2 then
    if year % 4 = 0 ∧ (year % 100 ≠ 0 ∨ year % 400 = 0) then 29 else 28
  else if month = 4 ∨ month = 6 ∨ month = 9 ∨ month = 11 then 30
  else 31

def afterDate? (text : List Char) : Option (List Char) := do
  let (year, rest) ← fixedDigits? 4 text
  let '-' :: rest := rest | none
  let (month, rest) ← twoDigits? 12 rest
  let '-' :: rest := rest | none
  let (day, rest) ← twoDigits? (daysIn year month) rest
  if month = 0 ∨ day = 0 then none else some rest

/-- The text after a time of day, which may have a fraction of a second. -/
def afterTime? (text : List Char) : Option (List Char) := do
  let (_, rest) ← twoDigits? 23 text
  let ':' :: rest := rest | none
  let (_, rest) ← twoDigits? 59 rest
  let ':' :: rest := rest | none
  let (_, rest) ← twoDigits? 60 rest
  match rest with
  | '.' :: digits =>
    if digits.head?.any (Numeral.isDigit 10) then some (digits.dropWhile (Numeral.isDigit 10))
    else none
  | rest => some rest

/-- Whether a text is a distance from universal time, or nothing. -/
def isOffset : List Char → Bool
  | [] => true
  | ['Z'] | ['z'] => true
  | sign :: rest =>
    (sign = '+' || sign = '-') &&
      match twoDigits? 23 rest with
      | some (_, ':' :: minutes) => (twoDigits? 59 minutes).any (·.2.isEmpty)
      | _ => false

/-- Whether a text is a date, a time, or a date with a time. -/
def isDateTime (text : List Char) : Bool :=
  match afterDate? text with
  | some [] => true
  | some (between :: rest) =>
    (between = 'T' ∨ between = 't' ∨ between = ' ') ∧ (afterTime? rest).any isOffset
  | none => (afterTime? text).any (·.isEmpty)

/-! ## Tokens -/

def isTokenChar (c : Char) : Bool :=
  c.isAlphanum ∨ c = '+' ∨ c = '-' ∨ c = '_' ∨ c = '.' ∨ c = ':'

def readToken? (token : List Char) : Option Value :=
  if token = ['t', 'r', 'u', 'e'] then some (.boolean true)
  else if token = ['f', 'a', 'l', 's', 'e'] then some (.boolean false)
  else if isDateTime token then some .dateTime
  else
    match readInteger? token with
    | some value => some (.integer value)
    | none => (readFloat? token).map .float

/-- Whether a time follows a date after a blank. -/
def timeFollows (token : List Char) : List Char → Bool
  | ' ' :: c :: _ => c.isDigit ∧ afterDate? token = some []
  | _ => false

namespace Scanner

def literal : Scanner Value := do
  let token ← run isTokenChar
  if timeFollows token (← get) then
    expect ' '
    let time ← run isTokenChar
    (readToken? (token ++ ' ' :: time) : Option Value)
  else
    (readToken? token : Option Value)

end Scanner

end TunnelServer.Toml
