import TunnelServer.Proofs.Handshake.Punctuality

/-!
# Reading what is ready

A field whose bytes are ready is read at once and from the front, however the bytes are divided. A
field that is cut short by the end of the stream takes what there is of it.
-/

namespace TunnelServer

open Source (Offers)

theorem Source.Handed.offers {due now : Nat} {tail : List Event} {used rest : List UInt8}
    {before after : Source} (h : Handed (⟨due, .endOfStream⟩ :: tail) used rest now before after)
    (ready : readyAt now ((used ++ rest).length + 1) before.script = now) :
    Offers now after.script rest := by
  refine offers_iff.mpr ⟨due, tail, h.brings, ?_⟩
  rwa [h.resumes now _ (Nat.le_refl now), ← Nat.add_assoc, ← List.length_append]

theorem Source.readyAt_eq_of_ready {now : Nat} {script : List Event} {used rest : List UInt8}
    (ready : readyAt now ((used ++ rest).length + 1) script = now) :
    readyAt now used.length script = now := by
  rw [List.length_append, Nat.add_assoc] at ready
  apply Nat.le_antisymm
  · exact Nat.le_trans (readyAt_mono (Nat.le_add_right ..)) (Nat.le_of_eq ready)
  · exact le_readyAt ..

namespace Wire

variable {α β : Type} {deadline : Option Nat} {used rest : List UInt8}

/-- A part takes the first of the bytes that are ready and leaves the others, without waiting. -/
def Takes (deadline : Option Nat) (part : FieldReader α) (used rest : List UInt8)
    (result : Except FieldHalt α) : Prop :=
  ∀ reader : Reader, deadline.any (· < reader.now) = false →
    Offers reader.now reader.source.script (used ++ rest) →
    ∃ source, part reader = (result, ⟨reader.now, source⟩) ∧
      source.taken = reader.source.taken ++ used ∧ Offers reader.now source.script rest

theorem Collects.takes {part : FieldReader α} {value : α} (h : Collects deadline part used value) :
    Takes deadline part used rest (.ok value) := by
  intro reader hd ho
  obtain ⟨due, tail, brings, ready⟩ := Source.offers_iff.mp ho
  have there := Source.readyAt_eq_of_ready ready
  have early : ∀ limit ∈ deadline, Source.readyAt reader.now used.length reader.source.script ≤
      limit := by
    rintro limit rfl
    rw [there]
    simpa using hd
  obtain ⟨source, hr, handed⟩ := h reader _ rest brings early
  rw [there] at hr handed
  exact ⟨source, hr, handed.taken, handed.offers ready⟩

theorem Takes.bind {first : FieldReader α} {next : α → FieldReader β} {value : α}
    {later : List UInt8} {result : Except FieldHalt β}
    (hf : Takes deadline first used (later ++ rest) (.ok value))
    (hn : Takes deadline (next value) later rest result) :
    Takes deadline (first >>= next) (used ++ later) rest result := by
  intro reader hd ho
  rw [List.append_assoc] at ho
  obtain ⟨source, hr, ht, ho⟩ := hf reader hd ho
  obtain ⟨after, hr', ht', ho'⟩ := hn ⟨reader.now, source⟩ hd ho
  refine ⟨after, (bind_of_ok hr).trans hr', ?_, ho'⟩
  rw [ht', ht, List.append_assoc]

theorem Takes.bind_error {first : FieldReader α} {halt : FieldHalt}
    (hf : Takes deadline first used rest (.error halt)) (next : α → FieldReader β) :
    Takes deadline (first >>= next) used rest (.error halt) := by
  intro reader hd ho
  obtain ⟨source, hr, ht, ho⟩ := hf reader hd ho
  exact ⟨source, bind_of_error hr, ht, ho⟩

theorem Takes.throw (halt : FieldHalt) :
    Takes deadline (MonadExcept.throw halt : FieldReader α) [] rest (.error halt) :=
  fun reader _ ho => ⟨reader.source, rfl, (List.append_nil _).symm, ho⟩

theorem Takes.map {first : FieldReader α} {next : α → FieldReader β} {value : α}
    {result : Except FieldHalt β} (hf : Takes deadline first used rest (.ok value))
    (hn : Takes deadline (next value) [] rest result) :
    Takes deadline (first >>= next) used rest result := by
  have whole : Takes deadline (first >>= next) (used ++ []) rest result := hf.bind hn
  rwa [List.append_nil] at whole

theorem readBytes_cut {wanted : Nat} {short : IoError} {part : List UInt8}
    (hl : part.length < wanted) :
    Takes deadline (readBytes deadline wanted short) part [] (.error (.failed (.io short))) := by
  intro reader hd ho
  rw [List.append_nil] at ho
  obtain ⟨left, hg, left_ready⟩ := ho.gather_of_lt hl hd
  obtain ⟨after, he, ht, hs⟩ := Source.takeExactly_of_gather hg
  refine ⟨after, ?_, ht, hs ▸ left_ready⟩
  simp only [readBytes, conclude, he]

theorem readU16_cut {part : List UInt8} (hl : part.length < 2) :
    Takes deadline (readU16 deadline) part [] (.error (.failed (.io .unexpectedEnd))) :=
  (readBytes_cut hl).bind_error _

theorem readI32_cut {part : List UInt8} (hl : part.length < 4) :
    Takes deadline (readI32 deadline) part [] (.error (.failed (.io .unexpectedEnd))) :=
  (readBytes_cut hl).bind_error _

theorem skipString_cut {length : UInt16} {part : List UInt8} (h : part.length < length.toNat) :
    Takes deadline (skipString deadline) (encodeU16 length ++ part) []
      (.error (.failed (.io .unexpectedEnd))) := by
  rw [skipString_eq]
  refine (readU16_collects length).takes.bind ?_
  exact (readBytes_cut h).bind_error _

theorem readString_ill {body : List UInt8} (h : body.length < 65536)
    (ill : ∀ text, body ≠ Utf8.encode text) :
    Takes deadline (readString deadline) (frame body) rest (.error (.failed .invalidUtf8)) := by
  obtain ⟨length, he, hl⟩ := exists_frame_eq h
  have undecoded : Utf8.decode? body = none := by
    apply Option.eq_none_iff_forall_ne_some.mpr
    intro text ht
    exact ill text (Utf8.decode?_eq_some_iff.mp ht)
  rw [he]
  refine (readU16_collects length).takes.bind ((readBytes_collects hl).takes.map ?_)
  rw [undecoded]
  exact Takes.throw _

theorem readString_cut {length : UInt16} {part : List UInt8} (h : part.length < length.toNat) :
    Takes deadline (readString deadline) (encodeU16 length ++ part) []
      (.error (.failed (.io .earlyEnd))) := by
  refine (readU16_collects length).takes.bind ?_
  exact (readBytes_cut h).bind_error _

end Wire

end TunnelServer
