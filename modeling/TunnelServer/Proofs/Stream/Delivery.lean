import TunnelServer.Stream.Source

/-!
# What a script brings

A script brings bytes in pieces of any size until something else than data is next: the end of the
stream, a fault, or nothing. Reading takes these bytes from the front, however they are divided:
what was taken and what is still to come make up what the script brings.
-/

namespace TunnelServer

namespace Source

def hasData : List Event → Bool
  | ⟨_, .data _⟩ :: _ => true
  | _ => false

/-- A script brings bytes, in whatever pieces, and then goes on with `tail`, which is not data. -/
inductive Brings (tail : List Event) : List Event → List UInt8 → Prop where
  | done : hasData tail = false → Brings tail tail []
  | piece {due : Nat} {bytes rest : List UInt8} {script : List Event} :
      Brings tail script rest → Brings tail (⟨due, .data bytes⟩ :: script) (bytes ++ rest)

/-- A script brings bytes and then the end of the stream. -/
def Ends (script : List Event) (bytes : List UInt8) : Prop :=
  ∃ due later, Brings (⟨due, .endOfStream⟩ :: later) script bytes

def Poll.given : Poll → List UInt8
  | .bytes chunk => chunk
  | _ => []

variable {tail script rest : List Event} {room now : Nat}

theorem Brings.join {due : Nat} {first second bytes : List UInt8}
    (h : Brings tail (⟨due, .data second⟩ :: script) bytes) :
    Brings tail (⟨due, .data (first ++ second)⟩ :: script) (first ++ bytes) := by
  cases h with
  | done hd => simp [hasData] at hd
  | piece h =>
    rw [← List.append_assoc]
    exact .piece h

/-- What a read hands over comes before what is still to come. -/
theorem Brings.of_pollScript {answer : Poll} {bytes : List UInt8}
    (hp : pollScript room now script = (answer, rest)) (hf : ∀ kind, answer ≠ .fault kind)
    (h : Brings tail rest bytes) : Brings tail script (answer.given ++ bytes) := by
  fun_induction pollScript room now script with
  | case1 | case2 | case3 | case4 | case5 =>
    obtain ⟨rfl, rfl⟩ := Prod.mk.inj hp
    exact h
  | case6 _ _ _ _ kind =>
    obtain ⟨rfl, rfl⟩ := Prod.mk.inj hp
    exact absurd rfl (hf kind)
  | case7 event rest _ _ he ih =>
    obtain ⟨due, arrival⟩ := event
    obtain rfl : arrival = .data [] := he
    exact .piece (ih hp)
  | case8 event rest _ _ b bs he =>
    obtain ⟨due, arrival⟩ := event
    obtain rfl : arrival = .data (b :: bs) := he
    obtain ⟨rfl, rfl⟩ := Prod.mk.inj hp
    exact .piece h
  | case9 event rest hr _ b bs he hl =>
    obtain ⟨due, arrival⟩ := event
    obtain rfl : arrival = .data (b :: bs) := he
    obtain ⟨rfl, rfl⟩ := Prod.mk.inj hp
    obtain ⟨room, rfl⟩ := Nat.exists_eq_succ_of_ne_zero hr
    have whole : (b :: bs).take (room + 1) ++ bs.drop room = b :: bs := by
      rw [List.take_succ_cons, List.cons_append, List.take_append_drop]
    have joined : Brings tail (⟨due, .data ((b :: bs).take (room + 1) ++ bs.drop room)⟩ :: rest)
        ((b :: bs).take (room + 1) ++ bytes) := h.join
    rwa [whole] at joined

theorem exists_eq_cons_of_pollScript_endOfStream (hr : 0 < room)
    (hp : pollScript room now script = (.endOfStream, rest)) :
    ∃ due later, rest = ⟨due, .endOfStream⟩ :: later := by
  fun_induction pollScript room now script with
  | case1 => omega
  | case3 => omega
  | case5 event rest _ _ he =>
    obtain ⟨due, arrival⟩ := event
    obtain rfl : arrival = .endOfStream := he
    simp only [Prod.mk.injEq, true_and] at hp
    exact ⟨due, _, hp.symm⟩
  | case7 _ _ _ _ _ ih => exact ih hp
  | _ => simp at hp

theorem length_le_of_pollScript_bytes {chunk : List UInt8}
    (hp : pollScript room now script = (.bytes chunk, rest)) : chunk.length ≤ room := by
  fun_induction pollScript room now script with
  | case7 _ _ _ _ _ ih => exact ih hp
  | case8 event rest hr _ b bs _ hl =>
    simp only [Prod.mk.injEq, Poll.bytes.injEq] at hp
    have fits : bs.length ≤ room - 1 := List.drop_eq_nil_iff.mp hl
    rw [← hp.1, List.length_cons]
    omega
  | case9 =>
    simp only [Prod.mk.injEq, Poll.bytes.injEq] at hp
    rw [← hp.1]
    exact List.length_take_le ..
  | _ => simp at hp

end Source

end TunnelServer
