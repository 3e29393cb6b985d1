import TunnelServer.Log.Pattern.Fault
import TunnelServer.Text.White

/-! # Reading patterns

A pattern is read from the front. A fault in its structure ends the reading, while one in its
meaning is kept until the structure has turned out to be right.
-/

namespace TunnelServer.Log.Pattern

/-- How the characters of a pattern are taken. -/
structure Flags where
  /-- White space and comments mean nothing. -/
  spaced : Bool
  /-- Large and small letters are the same. -/
  folded : Bool
  unicode : Bool
deriving DecidableEq, Repr

/-- What stands in front of a repetition. -/
inductive Last where
  | nothing
  | flags
  | item
deriving DecidableEq, Repr

/-- A group that is open: where it begins, and the flags that hold again behind it. -/
structure Group where
  start : Nat
  flags : Flags
deriving DecidableEq, Repr

/-- What is known while a pattern is being read. -/
structure State where
  rest : List Char
  place : Nat
  flags : Flags
  groups : List Group
  names : List (List Char × Span)
  last : Last
  /-- The first fault in the meaning. -/
  doubt : Option Fault
  /-- Whether the edge of a word, in any script, is asked for. -/
  boundary : Bool

def State.start (text : List Char) : State :=
  ⟨text, 0, ⟨false, false, true⟩, [], [], .nothing, none, false⟩

/-- A part of a pattern that is read, or the fault in its structure. -/
abbrev Reader := StateT State (Except Fault)

def failAt (kind : FaultKind) (first last : Nat) : Reader α := throw ⟨kind, ⟨first, last⟩, none⟩

/-- Keeps a fault in the meaning, if it is the first. -/
def keepDoubt (kind : FaultKind) (span : Span) : Reader Unit := modify fun state =>
  if state.doubt.isSome then state else { state with doubt := some ⟨kind, span, none⟩ }

def here : Reader Nat := return (← get).place

def peek? : Reader (Option Char) := return (← get).rest.head?

def atEnd : Reader Bool := return (← get).rest.isEmpty

def skip (count : Nat) : Reader Unit := modify fun state =>
  { state with
    rest := state.rest.drop count
    place := state.place + min count state.rest.length }

def setLast (last : Last) : Reader Unit := modify fun state => { state with last }

/-- How many characters in front mean nothing. The first argument says whether they are in a
comment. -/
def gapLength : Bool → List Char → Nat
  | _, [] => 0
  | true, c :: rest => 1 + gapLength (c ≠ '\n') rest
  | false, c :: rest =>
    if Text.isWhite c then 1 + gapLength false rest
    else if c = '#' then 1 + gapLength true rest
    else 0

def skipGap : Reader Unit := do
  let state ← get
  if state.flags.spaced then skip (gapLength false state.rest)

/-- Passes over a character and over what means nothing behind it. -/
def step : Reader Unit := do
  skip 1
  skipGap

def peekBehind? : Reader (Option Char) := do
  let state ← get
  let behind := state.rest.drop 1
  return (if state.flags.spaced then behind.drop (gapLength false behind) else behind).head?

def startsWith (text : List Char) : Reader Bool := return text.isPrefixOf (← get).rest

end TunnelServer.Log.Pattern
