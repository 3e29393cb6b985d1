import TunnelServer.Proofs.Handshake.Punctuality
import TunnelServer.Proofs.Stream.Gathering
import TunnelServer.Proofs.Stream.Waiting

/-!
# Waiting for fields

A field is waited for as a whole: its limit is not extended when a part of it comes. So a row of
fields is passed one field after another, each of them counted from the end of the one before, until
one does not come in time. The passage depends only on when the bytes come.
-/

namespace TunnelServer

open Source (Brings Handed readyAt)

namespace Wire

variable {α β : Type} {deadline : Option Nat} {used later : List UInt8}

/-- How a field fails whose bytes were not all there. -/
inductive Halts : Source.Outcome → FieldHalt → Prop where
  | ended {cause : IoError} : cause.kind = .unexpectedEof → Halts .ended (.failed (.io cause))
  | faulted {kind : IoErrorKind} : Halts (.faulted kind) (.failed (.io (.ofKind kind)))
  | expired : Halts .expired .expired
  | parked : Halts .parked .parked

theorem Halts.incomplete {outcome : Source.Outcome} {halt : FieldHalt} (h : Halts outcome halt) :
    outcome ≠ .complete := by
  cases h <;> simp

/-- A part waits for so many bytes at once: if what comes is the beginning of these bytes, it ends
as the wait for all of them does. -/
def Waits (deadline : Option Nat) (part : FieldReader α) (used : List UInt8)
    (value : Except FieldHalt α) : Prop :=
  ∀ reader : Reader,
    let got := Source.gather deadline used.length reader.now reader.source.script
    got.bytes <+: used →
    ∃ result source, part reader = (result, ⟨got.time, source⟩) ∧ source.script = got.rest ∧
      source.taken = reader.source.taken ++ got.bytes ∧
      ((got.outcome = .complete ∧ result = value) ∨
        ∃ halt, Halts got.outcome halt ∧ result = .error halt)

theorem Waits.bind {first : FieldReader α} {next : α → FieldReader β} {value : α}
    {result : Except FieldHalt β} (hf : Waits deadline first used (.ok value))
    (hn : Waits deadline (next value) later result) :
    Waits deadline (first >>= next) (used ++ later) result := by
  intro reader
  rw [List.length_append, Source.gather_add]
  intro got hp
  have first_le := Source.length_gather_le deadline used.length reader.now reader.source.script
  by_cases complete :
      (Source.gather deadline used.length reader.now reader.source.script).outcome = .complete
  · have length := Source.length_gather complete
    simp only [got, complete, if_true] at hp ⊢
    have front : (Source.gather deadline used.length reader.now reader.source.script).bytes <+:
        used := List.prefix_of_prefix_length_le ((List.prefix_append _ _).trans hp)
      (List.prefix_append used later) first_le
    obtain ⟨_, middle, hr, hs, ht, ⟨-, rfl⟩ | ⟨_, stopped, -⟩⟩ := hf reader front
    · have whole := front.eq_of_length length
      rw [whole, List.prefix_append_right_inj] at hp
      obtain ⟨result', after, hr', hs', ht', ended⟩ := hn ⟨_, middle⟩ (hs ▸ hp)
      rw [hs] at hr' hs' ht' ended
      refine ⟨result', after, (bind_of_ok hr).trans hr', hs', ?_, ended⟩
      rw [ht', ht, List.append_assoc]
    · exact absurd complete stopped.incomplete
  · simp only [got, complete, if_false] at hp ⊢
    have front := List.prefix_of_prefix_length_le hp (List.prefix_append used later) first_le
    obtain ⟨_, middle, hr, hs, ht, ⟨there, -⟩ | ⟨halt, stopped, rfl⟩⟩ := hf reader front
    · exact absurd there complete
    · exact ⟨_, middle, bind_of_error hr, hs, ht, .inr ⟨halt, stopped, rfl⟩⟩

theorem Waits.pure (value : α) :
    Waits deadline (Pure.pure value : FieldReader α) [] (.ok value) := by
  intro reader got _
  have nothing : got = ⟨.complete, reader.now, [], reader.source.script⟩ := by
    simp [got, Source.gather]
  rw [nothing]
  exact ⟨_, reader.source, rfl, rfl, (List.append_nil _).symm, .inl ⟨rfl, rfl⟩⟩

theorem Waits.throw (halt : FieldHalt) :
    Waits deadline (MonadExcept.throw halt : FieldReader α) [] (.error halt) := by
  intro reader got _
  have nothing : got = ⟨.complete, reader.now, [], reader.source.script⟩ := by
    simp [got, Source.gather]
  rw [nothing]
  exact ⟨_, reader.source, rfl, rfl, (List.append_nil _).symm, .inl ⟨rfl, rfl⟩⟩

theorem Waits.judge {first : FieldReader α} {next : α → FieldReader β} {value : α}
    {result : Except FieldHalt β} (hf : Waits deadline first used (.ok value))
    (hn : Waits deadline (next value) [] result) :
    Waits deadline (first >>= next) used result := by
  have whole : Waits deadline (first >>= next) (used ++ []) result := hf.bind hn
  rwa [List.append_nil] at whole

theorem readBytes_waits {wanted : Nat} {short : IoError} {bytes : List UInt8}
    (hl : bytes.length = wanted) (hs : short.kind = .unexpectedEof) :
    Waits deadline (readBytes deadline wanted short) bytes (.ok bytes) := by
  intro reader got hp
  subst hl
  obtain ⟨after, he, ht, hr⟩ := Source.takeExactly_of_gather (rfl : _ = got)
  have stops (halt : FieldHalt) (h : Halts got.outcome halt)
      (hr' : readBytes deadline bytes.length short reader = (.error halt, ⟨got.time, after⟩)) :
      ∃ result source, readBytes deadline bytes.length short reader =
          (result, ⟨got.time, source⟩) ∧ source.script = got.rest ∧
        source.taken = reader.source.taken ++ got.bytes ∧
        ((got.outcome = .complete ∧ result = .ok bytes) ∨
          ∃ halt, Halts got.outcome halt ∧ result = .error halt) :=
    ⟨_, after, hr', hr, ht, .inr ⟨halt, h, rfl⟩⟩
  cases ho : got.outcome with
  | complete =>
    have whole : got.bytes = bytes := hp.eq_of_length (Source.length_gather ho)
    refine ⟨.ok bytes, after, ?_, hr, ht, .inl ⟨rfl, rfl⟩⟩
    simp only [readBytes, conclude, he, ho, whole]
  | ended =>
    rw [← ho]
    apply stops _ (ho ▸ Halts.ended hs)
    simp only [readBytes, conclude, he, ho]
  | faulted kind =>
    rw [← ho]
    apply stops _ (ho ▸ Halts.faulted)
    simp only [readBytes, conclude, he, ho]
  | expired =>
    rw [← ho]
    apply stops _ (ho ▸ Halts.expired)
    simp only [readBytes, conclude, he, ho]
  | parked =>
    rw [← ho]
    apply stops _ (ho ▸ Halts.parked)
    simp only [readBytes, conclude, he, ho]

theorem readU16_waits (value : UInt16) :
    Waits deadline (readU16 deadline) (encodeU16 value) (.ok value) := by
  apply (readBytes_waits (length_encodeU16 value) rfl).judge
  rw [decodeU16_encodeU16]
  exact Waits.pure value

theorem readI32_waits (value : Int32) :
    Waits deadline (readI32 deadline) (encodeI32 value) (.ok value) := by
  apply (readBytes_waits (length_encodeI32 value) rfl).judge
  rw [decodeI32_encodeI32]
  exact Waits.pure value

theorem skipString_waits {body : List UInt8} (h : body.length < 65536) :
    Waits deadline (skipString deadline) (frame body) (.ok body.length) := by
  obtain ⟨length, he, hl⟩ := exists_frame_eq h
  rw [skipString_eq, he, hl]
  exact (readU16_waits length).bind ((readBytes_waits hl rfl).judge (Waits.pure _))

/-- What a string is worth once its bytes are there. -/
def textOf (body : List UInt8) : Except FieldHalt String :=
  match Utf8.decode? body with
  | some text => .ok text
  | none => .error (.failed .invalidUtf8)

theorem readString_waits {body : List UInt8} (h : body.length < 65536) :
    Waits deadline (readString deadline) (frame body) (textOf body) := by
  obtain ⟨length, he, hl⟩ := exists_frame_eq h
  rw [he]
  refine (readU16_waits length).bind ((readBytes_waits hl rfl).judge ?_)
  cases hd : Utf8.decode? body with
  | some text =>
    simp only [textOf, hd]
    exact Waits.pure text
  | none =>
    simp only [textOf, hd]
    exact Waits.throw _

end Wire

end TunnelServer
