/-! # Base64

Three bytes are written as four characters of 64. Reading passes over blanks and line ends. The
last group may be short; it may then be filled up to four characters with padding signs, but need
not be.
-/

namespace TunnelServer.Base64

def value? (c : UInt8) : Option Nat :=
  if 65 ≤ c ∧ c ≤ 90 then some (c.toNat - 65)
  else if 97 ≤ c ∧ c ≤ 122 then some (c.toNat - 71)
  else if 48 ≤ c ∧ c ≤ 57 then some (c.toNat + 4)
  else if c = 43 then some 62
  else if c = 47 then some 63
  else none

def character (n : Nat) : UInt8 :=
  if n < 26 then UInt8.ofNat (n + 65)
  else if n < 52 then UInt8.ofNat (n + 71)
  else if n < 62 then UInt8.ofNat (n - 4)
  else if n = 62 then 43
  else 47

def padding : UInt8 := 61

/-- A blank or a line end, which may stand anywhere. -/
def isBlank (c : UInt8) : Bool := c = 32 ∨ (9 ≤ c ∧ c ≤ 13)

def low (n : Nat) : UInt8 := UInt8.ofNat n

def decodeTwo? (a b : UInt8) : Option (List UInt8) := do
  return [low ((← value? a) * 4 + (← value? b) / 16)]

def decodeThree? (a b c : UInt8) : Option (List UInt8) := do
  let n := (← value? b) * 16 + (← value? c) / 4
  return (← decodeTwo? a b) ++ [low n]

def decodeFour? (a b c d : UInt8) : Option (List UInt8) := do
  let n := (← value? c) * 64 + (← value? d)
  return (← decodeThree? a b c) ++ [low n]

def decodeLast? : List UInt8 → Option (List UInt8)
  | [] => some []
  | [a, b] => decodeTwo? a b
  | [a, b, c] => decodeThree? a b c
  | [a, b, c, d] =>
    if d = padding then
      if c = padding then decodeTwo? a b else decodeThree? a b c
    else decodeFour? a b c d
  | _ => none

def decodeGroups? : List UInt8 → Option (List UInt8)
  | a :: b :: c :: d :: e :: rest => do
    let group ← decodeFour? a b c d
    return group ++ (← decodeGroups? (e :: rest))
  | last => decodeLast? last

def decode? (text : List UInt8) : Option (List UInt8) :=
  decodeGroups? (text.filter fun c => !isBlank c)

/-- The text of some bytes, with or without padding. -/
def encode (padded : Bool) : List UInt8 → List UInt8
  | [] => []
  | [a] =>
    [character (a.toNat / 4), character (a.toNat % 4 * 16)] ++
      if padded then [padding, padding] else []
  | [a, b] =>
    [character (a.toNat / 4), character (a.toNat % 4 * 16 + b.toNat / 16),
      character (b.toNat % 16 * 4)] ++ if padded then [padding] else []
  | a :: b :: c :: rest =>
    [character (a.toNat / 4), character (a.toNat % 4 * 16 + b.toNat / 16),
      character (b.toNat % 16 * 4 + c.toNat / 64), character (c.toNat % 64)] ++
        encode padded rest

end TunnelServer.Base64
