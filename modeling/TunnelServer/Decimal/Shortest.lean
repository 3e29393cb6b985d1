import TunnelServer.Decimal.Binary64
import TunnelServer.Text.Numeral

/-! # The shortest decimal text of a number

Of all decimal numbers that are read back as a given number, one with the fewest digits is taken,
and of these the one that is nearest to the number, the larger if two are. It is written out without
an exponent, and with at least one digit after the point.
-/

namespace TunnelServer.Binary64

/-- Whether `digits` times ten to `tens` is read back as the number whose significand and exponent
are given. Twice the distance to the number is at most the step to the next number on that side;
half-way it is read as the even significand. -/
def readsBack (significand : Nat) (exponent : Int) (digits : Nat) (tens : Int) : Bool :=
  -- all quantities are multiples of two to `exponent - 2`
  let unit := exponent - 2
  let value := 4 * significand * tenTo (-tens) * twoTo unit
  let candidate := digits * tenTo tens * twoTo (-unit)
  let one := tenTo (-tens) * twoTo unit
  let below := if significand = twoTo 52 ∧ minExponent < exponent then one else 2 * one
  if significand % 2 = 0 then value ≤ candidate + below ∧ candidate ≤ value + 2 * one
  else value < candidate + below ∧ candidate < value + 2 * one

/-- The digits of the number on the grid of ten to `tens`, rounded down. -/
def floorDigits (significand : Nat) (exponent tens : Int) : Nat :=
  (significand * twoTo exponent * tenTo (-tens)) /
    (twoTo (-exponent) * tenTo tens)

/-- Whether the number is nearer to `digits` than to `digits + 1`. -/
def nearerBelow (significand : Nat) (exponent : Int) (digits : Nat) (tens : Int) : Bool :=
  2 * significand * twoTo exponent * tenTo (-tens) <
    (2 * digits + 1) * twoTo (-exponent) * tenTo tens

/-- The digits on one grid that are read back, the nearer if two are. -/
def onGrid? (significand : Nat) (exponent tens : Int) : Option Nat :=
  let low := floorDigits significand exponent tens
  match readsBack significand exponent low tens,
      readsBack significand exponent (low + 1) tens with
  | true, true => some (if nearerBelow significand exponent low tens then low else low + 1)
  | true, false => some low
  | false, true => some (low + 1)
  | false, false => none

/-- Looks on finer and finer grids, at most so many. -/
def search (significand : Nat) (exponent : Int) : Nat → Int → Nat × Int
  | 0, tens => (floorDigits significand exponent tens, tens)
  | more + 1, tens =>
    match onGrid? significand exponent tens with
    | some digits => (digits, tens)
    | none => search significand exponent more (tens - 1)

/-- The shortest digits and their power of ten. Seventeen digits are always enough. -/
def shortest (significand : Nat) (exponent : Int) : Nat × Int :=
  let places : Int := (Nat.toDigits 10 (floorDigits significand exponent (-400))).length
  search significand exponent 17 (places - 400 - 1)

/-- Digits without zeros at the end, and the power of ten that makes up for them. -/
def trimZeros (digits : List Char) (tens : Int) : List Char × Int :=
  let zeros := (digits.reverse.takeWhile (· = '0')).length
  (digits.take (digits.length - zeros), tens + zeros)

def positional (digits : List Char) (tens : Int) : List Char :=
  if 0 ≤ tens then digits ++ List.replicate tens.toNat '0' ++ ['.', '0']
  else
    let places := (-tens).toNat
    if places < digits.length then
      digits.take (digits.length - places) ++ '.' :: digits.drop (digits.length - places)
    else '0' :: '.' :: List.replicate (places - digits.length) '0' ++ digits

def render : Binary64 → String
  | .nan => "NaN"
  | .infinite negative => if negative then "-inf" else "inf"
  | .finite negative significand exponent =>
    let sign := if negative then ['-'] else []
    let text :=
      if significand = 0 then ['0', '.', '0']
      else
        let (digits, tens) := shortest significand exponent
        let (digits, tens) := trimZeros (Numeral.digits 10 digits) tens
        positional digits tens
    String.ofList (sign ++ text)

end TunnelServer.Binary64
