/-! # Binary numbers of double precision

A finite number is a significand of at most 53 bits times a power of two that is at least -1074.
A quotient is rounded to the nearest such number, a half to the even significand; what is too large
becomes infinite.
-/

namespace TunnelServer

inductive Binary64 where
  | nan
  | infinite (negative : Bool)
  /-- The significand times two to the exponent. -/
  | finite (negative : Bool) (significand : Nat) (exponent : Int)
deriving DecidableEq, Repr

namespace Binary64

def minExponent : Int := -1074

def maxExponent : Int := 971

/-- Two to an exponent; one if it is negative. -/
def twoTo (exponent : Int) : Nat := Nat.pow 2 exponent.toNat

/-- Ten to an exponent; one if it is negative. -/
def tenTo (exponent : Int) : Nat := Nat.pow 10 exponent.toNat

/-- The integer nearest to a quotient, the even one if two are. -/
def roundQuotient (num den : Nat) : Nat :=
  let floor := num / den
  let twice := 2 * (num % den)
  if twice < den then floor
  else if den < twice then floor + 1
  else floor + floor % 2

/-- A quotient divided by a power of two, as numerator and denominator. -/
def scaleDown (num den : Nat) (exponent : Int) : Nat × Nat :=
  (num * twoTo (-exponent), den * twoTo exponent)

/-- The exponent at which a positive quotient has a significand of 53 bits. -/
def normalExponent (num den : Nat) : Int :=
  let guess : Int := (Nat.log2 num : Int) - (Nat.log2 den : Int) - 52
  let (n, d) := scaleDown num den guess
  if n < d * twoTo 52 then guess - 1 else guess

def ofQuotient (negative : Bool) (num den : Nat) : Binary64 :=
  if num = 0 then .finite negative 0 minExponent
  else
    let exponent := max (normalExponent num den) minExponent
    let (n, d) := scaleDown num den exponent
    let significand := roundQuotient n d
    let (significand, exponent) :=
      if significand = twoTo 53 then (twoTo 52, exponent + 1) else (significand, exponent)
    if maxExponent < exponent then .infinite negative
    else .finite negative significand exponent

/-- The number nearest to some digits times a power of ten. Beyond 400 places on either side of the
point there is nothing to tell apart. -/
def ofDecimal (negative : Bool) (digits : Nat) (exponent : Int) : Binary64 :=
  let places : Int := exponent + (Nat.toDigits 10 digits).length
  if digits = 0 ∨ places < -400 then .finite negative 0 minExponent
  else if 400 < places then .infinite negative
  else ofQuotient negative (digits * tenTo exponent) (tenTo (-exponent))

end Binary64

end TunnelServer
