import TunnelServer.Address.V4

/-! # IPv6 addresses

An address has eight groups of 16 bits, written in hexadecimal with colons between them. One run of
zero groups may be left out, and the last two groups may be given as an IPv4 address. Printing
leaves out the longest run of at least two zero groups, the first of several, and shows an address
that stands for an IPv4 address in the mixed form.
-/

namespace TunnelServer

structure V6 where
  groups : List UInt16
  length_groups : groups.length = 8
deriving DecidableEq

namespace V6

def ofGroups? (groups : List UInt16) : Option V6 :=
  if h : groups.length = 8 then some ⟨groups, h⟩ else none

def pairGroup (high low : UInt8) : UInt16 := UInt16.ofNat (high.toNat * 256 + low.toNat)

def groupsOfV4 (address : V4) : List UInt16 :=
  [pairGroup address.a address.b, pairGroup address.c address.d]

def v4OfGroups (high low : UInt16) : V4 :=
  ⟨UInt8.ofNat (high.toNat / 256), UInt8.ofNat high.toNat,
    UInt8.ofNat (low.toNat / 256), UInt8.ofNat low.toNat⟩

def ofV4 (address : V4) : V6 := ⟨[0, 0, 0, 0, 0, 0xffff] ++ groupsOfV4 address, rfl⟩

/-- The IPv4 address that an IPv6 address stands for, if it does. -/
def toV4? (address : V6) : Option V4 :=
  match address.groups with
  | [0, 0, 0, 0, 0, 0xffff, high, low] => some (v4OfGroups high low)
  | _ => none

def unspecified : V6 := ⟨List.replicate 8 0, rfl⟩

def loopback : V6 := ⟨[0, 0, 0, 0, 0, 0, 0, 1], rfl⟩

/-! ## Printing -/

/-- Where the longest run of zero groups begins, and its length; of several the first. -/
def longestZeros : List UInt16 → Nat × Nat
  | [] => (0, 0)
  | group :: rest =>
    let here := ((group :: rest).takeWhile (· = 0)).length
    let later := longestZeros rest
    if later.2 ≤ here then (0, here) else (later.1 + 1, later.2)

def joinGroups (groups : List UInt16) : List Char :=
  Text.joinWith ':' (groups.map fun group => Numeral.digits 16 group.toNat)

def characters (address : V6) : List Char :=
  match address.toV4? with
  | some v4 => [':', ':', 'f', 'f', 'f', 'f', ':'] ++ v4.characters
  | none =>
    let (start, length) := longestZeros address.groups
    if 1 < length then
      joinGroups (address.groups.take start) ++ [':', ':'] ++
        joinGroups (address.groups.drop (start + length))
    else joinGroups address.groups

def render (address : V6) : String := String.ofList address.characters

/-! ## Reading -/

/-- A group of one to four hexadecimal digits. -/
def readGroup? (digits : List Char) : Option UInt16 := do
  guard (digits.length ≤ 4)
  return UInt16.ofNat (← Numeral.read? 16 digits)

/-- The groups of the pieces between colons; the last may be an IPv4 address. -/
def readPieces? : List (List Char) → Option (List UInt16)
  | [] => some []
  | [last] =>
    match V4.read? last with
    | some v4 => some (groupsOfV4 v4)
    | none => (readGroup? last).map ([·])
  | piece :: pieces => do
    let group ← readGroup? piece
    let groups ← readPieces? pieces
    return group :: groups

/-- The groups on one side of a gap: none at all, or pieces between colons. -/
def readSide? (text : List Char) : Option (List UInt16) :=
  if text.isEmpty then some [] else readPieces? (Text.splitOn ':' text)

def splitGap : List Char → Option (List Char × List Char)
  | ':' :: ':' :: rest => some ([], rest)
  | c :: rest => (splitGap rest).map fun (before, after) => (c :: before, after)
  | [] => none

/-- Fills the gap between two sides with zero groups, at least one. -/
def fillGap? (before after : List UInt16) : Option V6 :=
  if before.length + after.length < 8 then
    ofGroups? (before ++ List.replicate (8 - before.length - after.length) 0 ++ after)
  else none

/-- Reads any spelling of an address. An IPv4 address may stand only at the very end. -/
def read? (text : List Char) : Option V6 :=
  match splitGap text with
  | none => readSide? text >>= ofGroups?
  | some (before, after) => do
    guard ('.' ∉ before)
    fillGap? (← readSide? before) (← readSide? after)

end V6

end TunnelServer
