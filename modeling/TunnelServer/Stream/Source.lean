import TunnelServer.Io.Error
import TunnelServer.Time

/-! # Scripted sources

A source delivers bytes at known times. Its script lists what arrives and when; events are taken in
order, none before its time, and two events are never joined in one read. Once the script has run
out the source stays silent for ever. The chunks handed out so far are kept, so that what was taken
from a source, and when, is part of its state.
-/

namespace TunnelServer

/-- What a source can deliver. The end of the stream stays, a fault is delivered once. -/
inductive Arrival where
  | data (bytes : List UInt8)
  | endOfStream
  | fault (kind : IoErrorKind)
deriving DecidableEq, Repr

/-- An arrival and the time before which it cannot be taken. -/
structure Event where
  due : Nat
  arrival : Arrival
deriving DecidableEq, Repr

/-- Bytes that were taken together, and when. -/
structure Chunk where
  time : Nat
  bytes : List UInt8
deriving DecidableEq, Repr

/-- The bytes of chunks of which the newest comes first, in the order in which they were taken. -/
def Chunk.join (chunks : List Chunk) : List UInt8 := (chunks.map Chunk.bytes).reverse.flatten

@[simp] theorem Chunk.join_nil : Chunk.join [] = [] := rfl

@[simp] theorem Chunk.join_cons (chunk : Chunk) (chunks : List Chunk) :
    Chunk.join (chunk :: chunks) = Chunk.join chunks ++ chunk.bytes := by
  simp [Chunk.join]

/-- A source: what is still to come, and the chunks taken so far, the newest first. -/
structure Source where
  script : List Event
  chunks : List Chunk
deriving DecidableEq, Repr

namespace Source

def ofScript (script : List Event) : Source := ⟨script, []⟩

def taken (source : Source) : List UInt8 := Chunk.join source.chunks

@[simp] theorem taken_ofScript (script : List Event) : (ofScript script).taken = [] := rfl

theorem taken_mk (script : List Event) (chunks : List Chunk) :
    taken ⟨script, chunks⟩ = Chunk.join chunks := rfl

def consumed (source : Source) : Nat := source.taken.length

/-- The script as it is seen by someone who stops looking after `horizon`: since events are taken
in order, the first one due later hides all that follow it. -/
def visibleUntil (horizon : Nat) (script : List Event) : List Event :=
  script.takeWhile (fun event => event.due ≤ horizon)

/-- The answer to one attempt to read. -/
inductive Poll where
  | bytes (chunk : List UInt8)
  | endOfStream
  | fault (kind : IoErrorKind)
  /-- Nothing is there yet; `wake` is when the next event is due, if there is one. -/
  | pending (wake : Option Nat)
deriving DecidableEq, Repr

/-- One attempt to read into a buffer of the given room: the answer and the events that are left.
A read into no room takes nothing, which looks like the end of the stream. -/
def pollScript (room : Nat) (now : Nat) : List Event → Poll × List Event
  | [] => if room = 0 then (.endOfStream, []) else (.pending none, [])
  | event :: rest =>
    if room = 0 then (.endOfStream, event :: rest)
    else if now < event.due then (.pending (some event.due), event :: rest)
    else
      match event.arrival with
      | .endOfStream => (.endOfStream, event :: rest)
      | .fault kind => (.fault kind, rest)
      | .data [] => pollScript room now rest
      | .data (b :: bs) =>
        match bs.drop (room - 1) with
        | [] => (.bytes (b :: bs), rest)
        | left => (.bytes ((b :: bs).take room), ⟨event.due, .data left⟩ :: rest)

/-- One attempt to read, with the source afterwards. -/
def poll (room : Nat) (now : Nat) (source : Source) : Poll × Source :=
  match pollScript room now source.script with
  | (.bytes bytes, rest) => (.bytes bytes, ⟨rest, ⟨now, bytes⟩ :: source.chunks⟩)
  | (answer, rest) => (answer, ⟨rest, source.chunks⟩)

def size : Arrival → Nat
  | .data bytes => bytes.length
  | _ => 0

/-- How many bytes a script has still to bring. -/
def load (script : List Event) : Nat :=
  script.foldr (fun event total => size event.arrival + total) 0

@[simp] theorem load_cons (event : Event) (rest : List Event) :
    load (event :: rest) = size event.arrival + load rest := rfl

theorem load_of_pollScript_bytes {room : Nat} {now : Nat} {script rest : List Event}
    {chunk : List UInt8} (h : pollScript room now script = (.bytes chunk, rest)) :
    load script = chunk.length + load rest ∧ 0 < chunk.length := by
  fun_induction pollScript room now script with
  | case1 | case2 | case3 | case4 | case5 | case6 => simp at h
  | case7 _ _ _ _ empty ih => simpa [empty, size] using ih h
  | case8 event _ _ _ b bs data =>
    obtain ⟨rfl, rfl⟩ := by simpa using h
    simp [data, size]
  | case9 event _ hroom _ b bs data =>
    simp only [Prod.mk.injEq, Poll.bytes.injEq] at h
    obtain ⟨rfl, rfl⟩ := h
    simp only [load_cons, data, size, List.length_take, List.length_drop, List.length_cons]
    omega

theorem load_pollScript_le (room : Nat) (now : Nat) (script : List Event) :
    load (pollScript room now script).2 ≤ load script := by
  fun_induction pollScript room now script with
  | case7 _ _ _ _ _ ih => exact Nat.le_trans ih (Nat.le_add_left ..)
  | case9 event _ hroom _ b bs data =>
    simp only [load_cons, data, size, List.length_drop, List.length_cons]
    omega
  | _ => simp

theorem lt_of_pollScript_pending {room : Nat} {now wake : Nat} {script rest : List Event}
    (h : pollScript room now script = (.pending (some wake), rest)) : now < wake := by
  fun_induction pollScript room now script with
  | case4 _ _ _ early =>
    obtain ⟨rfl, rfl⟩ := by simpa using h
    exact early
  | case7 _ _ _ _ _ ih => exact ih h
  | _ => simp at h

/-- How an attempt to take a fixed number of bytes ends. -/
inductive Outcome where
  | complete
  | ended
  | faulted (kind : IoErrorKind)
  | expired
  | parked
deriving DecidableEq, Repr

/-- A finished attempt: how it ended, when, the bytes it took, and the events left. -/
structure Gathered where
  outcome : Outcome
  time : Nat
  bytes : List UInt8
  rest : List Event

/-- What becomes of waiting for ever under a deadline. -/
def giveUp (deadline : Option Nat) (now : Nat) (script : List Event) : Gathered :=
  match deadline with
  | some limit => ⟨.expired, max now limit, [], script⟩
  | none => ⟨.parked, now, [], script⟩

/-- Takes bytes until `wanted` of them are there. Each event is waited for unless it is due after
the deadline; one that is due at the deadline is in time. Bytes taken before a failure stay
taken. -/
def gather (deadline : Option Nat) : Nat → Nat → List Event → Gathered
  | 0, now, script => ⟨.complete, now, [], script⟩
  | _ + 1, now, [] => giveUp deadline now []
  | wanted + 1, now, event :: rest =>
    let time := max now event.due
    if deadline.any (· < time) then giveUp deadline now (event :: rest)
    else
      match event.arrival with
      | .endOfStream => ⟨.ended, time, [], event :: rest⟩
      | .fault kind => ⟨.faulted kind, time, [], rest⟩
      | .data bytes =>
        if bytes.length ≤ wanted + 1 then
          let after := gather deadline (wanted + 1 - bytes.length) time rest
          { after with bytes := bytes ++ after.bytes }
        else
          ⟨.complete, time, bytes.take (wanted + 1),
            ⟨event.due, .data (bytes.drop (wanted + 1))⟩ :: rest⟩

/-- The source without the bytes that an attempt took from it. -/
def without (source : Source) (result : Gathered) : Source :=
  ⟨result.rest, if result.bytes.isEmpty then source.chunks
    else ⟨result.time, result.bytes⟩ :: source.chunks⟩

/-- Takes bytes from the source until `wanted` of them are there, or until the deadline. -/
def takeExactly (deadline : Option Nat) (wanted : Nat) (now : Nat) (source : Source) :
    Gathered × Source :=
  let result := gather deadline wanted now source.script
  (result, source.without result)

end Source

end TunnelServer
