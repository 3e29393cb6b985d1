import TunnelServer.Proofs.Handshake.Grammar
import TunnelServer.Proofs.Handshake.Hearing
import TunnelServer.Proofs.Stream.Arrival
import TunnelServer.Proofs.Wire.Skipping

/-!
# Fields that arrive in time

A field that arrives before its deadline is read at the moment when its last byte arrives, and
nothing behind it is touched, however the bytes are divided. What a part of the handshake reads is a
list of fields, and each of them has a limit that is counted from the end of the field before.
-/

namespace TunnelServer

open Source (Brings Resumes readyAt)

/-- The first bytes of a source were taken by a time, and the rest is still to come. -/
structure Source.Handed (tail : List Event) (used rest : List UInt8) (time : Nat)
    (before after : Source) : Prop where
  taken : after.taken = before.taken ++ used
  brings : Brings tail after.script rest
  resumes : Resumes used.length time before.script after.script

variable {tail : List Event} {used later rest : List UInt8} {now time time' : Nat}
  {before middle after : Source}

theorem Source.Handed.refl (now : Nat) (h : Brings tail before.script rest) :
    Handed tail [] rest now before before where
  taken := (List.append_nil _).symm
  brings := h
  resumes := Resumes.refl now before.script

theorem Source.Handed.trans (h : Handed tail used (later ++ rest) time before middle)
    (h' : Handed tail later rest time' middle after) (hl : time ≤ time') :
    Handed tail (used ++ later) rest time' before after where
  taken := by rw [h'.taken, h.taken, List.append_assoc]
  brings := h'.brings
  resumes := by
    rw [List.length_append]
    exact h.resumes.trans h'.resumes hl

/-- What is taken next, once the first bytes were taken in no more time than they need. -/
theorem Source.Handed.readyAt_eq
    (h : Handed tail used rest (readyAt now used.length before.script) before after) (count : Nat) :
    readyAt (readyAt now used.length before.script) count after.script =
      readyAt now (used.length + count) before.script := by
  rw [h.resumes _ count (Nat.le_refl _)]
  exact readyAt_eq_of_le (le_readyAt ..) (readyAt_mono (Nat.le_add_right ..))

namespace Wire

variable {α β : Type} {deadline : Option Nat} {value : α}

/-- A part takes exactly these bytes if they arrive before the deadline, at the moment when the last
of them arrives. -/
def Collects (deadline : Option Nat) (part : FieldReader α) (used : List UInt8) (value : α) :
    Prop :=
  ∀ (reader : Reader) (tail : List Event) (rest : List UInt8),
    Brings tail reader.source.script (used ++ rest) →
    (∀ limit ∈ deadline, readyAt reader.now used.length reader.source.script ≤ limit) →
    ∃ source, part reader =
        (.ok value, ⟨readyAt reader.now used.length reader.source.script, source⟩) ∧
      Source.Handed tail used rest (readyAt reader.now used.length reader.source.script)
        reader.source source

theorem Collects.bind {first : FieldReader α} {next : α → FieldReader β} {result : β}
    (hf : Collects deadline first used value)
    (hn : Collects deadline (next value) later result) :
    Collects deadline (first >>= next) (used ++ later) result := by
  intro reader tail rest brings early
  rw [List.append_assoc] at brings
  rw [List.length_append] at early ⊢
  have sooner : readyAt reader.now used.length reader.source.script ≤
      readyAt reader.now (used.length + later.length) reader.source.script :=
    Source.readyAt_mono (Nat.le_add_right ..)
  obtain ⟨middle, hr, handed⟩ := hf reader tail (later ++ rest) brings
    fun limit hl => Nat.le_trans sooner (early limit hl)
  have ready := handed.readyAt_eq later.length
  obtain ⟨after, hr', handed'⟩ := hn
    ⟨readyAt reader.now used.length reader.source.script, middle⟩ tail rest handed.brings
    (by rw [ready]; exact early)
  rw [ready] at hr' handed'
  exact ⟨after, (bind_of_ok hr).trans hr', handed.trans handed' sooner⟩

theorem Collects.pure (value : α) :
    Collects deadline (Pure.pure value : FieldReader α) [] value := by
  intro reader tail rest brings _
  rw [List.length_nil, Source.readyAt_zero]
  exact ⟨reader.source, rfl, .refl reader.now brings⟩

theorem Collects.map {first : FieldReader α} {next : α → FieldReader β} {result : β}
    (hf : Collects deadline first used value) (hn : Collects deadline (next value) [] result) :
    Collects deadline (first >>= next) used result := by
  have whole : Collects deadline (first >>= next) (used ++ []) result := hf.bind hn
  rwa [List.append_nil] at whole

theorem readBytes_collects {wanted : Nat} {short : IoError} {bytes : List UInt8}
    (hl : bytes.length = wanted) :
    Collects deadline (readBytes deadline wanted short) bytes bytes := by
  intro reader tail rest brings early
  have enough : bytes.length ≤ (bytes ++ rest).length := by
    rw [List.length_append]
    omega
  obtain ⟨left, hg, brings', resumes⟩ := brings.gather enough early
  rw [List.take_left] at hg
  rw [List.drop_left] at brings'
  obtain ⟨after, he, ht, hs⟩ := Source.takeExactly_of_gather hg
  refine ⟨after, ?_, ht, hs ▸ brings', hs ▸ resumes⟩
  simp only [readBytes, conclude, ← hl, he]

theorem readU16_collects (value : UInt16) :
    Collects deadline (readU16 deadline) (encodeU16 value) value := by
  refine (readBytes_collects (length_encodeU16 value)).map ?_
  rw [decodeU16_encodeU16]
  exact Collects.pure value

theorem readI32_collects (value : Int32) :
    Collects deadline (readI32 deadline) (encodeI32 value) value := by
  refine (readBytes_collects (length_encodeI32 value)).map ?_
  rw [decodeI32_encodeI32]
  exact Collects.pure value

theorem exists_frame_eq {body : List UInt8} (h : body.length < 65536) :
    ∃ length : UInt16, frame body = encodeU16 length ++ body ∧ body.length = length.toNat := by
  have width : (UInt16.ofNat body.length).toNat = body.length := by
    rw [UInt16.toNat_ofNat', Nat.mod_eq_of_lt h]
  refine ⟨UInt16.ofNat body.length, ?_, width.symm⟩
  rw [frame, encodeU16, width]

theorem skipString_collects {body : List UInt8} (h : body.length < 65536) :
    Collects deadline (skipString deadline) (frame body) body.length := by
  obtain ⟨length, he, hl⟩ := exists_frame_eq h
  rw [skipString_eq, he, hl]
  exact (readU16_collects length).bind ((readBytes_collects hl).map (Collects.pure _))

theorem readString_collects {text : String} (h : (Utf8.encode text).length < 65536) :
    Collects deadline (readString deadline) (frame (Utf8.encode text)) text := by
  obtain ⟨length, he, hl⟩ := exists_frame_eq h
  rw [he]
  refine (readU16_collects length).bind ((readBytes_collects hl).map ?_)
  rw [Utf8.decode?_encode]
  exact Collects.pure text

end Wire

namespace Source

/-- Fields that come after the first bytes of a script arrive in time if each of them is there
within a limit, counted from the end of the field before. -/
def Punctual (limit : Option Nat) (now : Nat) (script : List Event) :
    Nat → List (List UInt8) → Prop
  | _, [] => True
  | done, field :: fields =>
    (∀ most ∈ limit,
      readyAt now (done + field.length) script ≤ readyAt now done script + most) ∧
      Punctual limit now script (done + field.length) fields

variable {limit : Option Nat} {script left : List Event} {count done : Nat}
  {fields more : List (List UInt8)}

theorem punctual_append : Punctual limit now script done (fields ++ more) ↔
    Punctual limit now script done fields ∧
      Punctual limit now script (done + fields.flatten.length) more := by
  induction fields generalizing done with
  | nil => simp [Punctual]
  | cons field fields ih =>
    simp only [List.cons_append, Punctual, ih, List.flatten_cons, List.length_append, Nat.add_assoc,
      and_assoc]

theorem Punctual.postpone (h : Punctual limit now script done fields) (hn : now ≤ time)
    (ht : time ≤ readyAt now done script) : Punctual limit time script done fields := by
  induction fields generalizing done with
  | nil => trivial
  | cons field fields ih =>
    obtain ⟨early, others⟩ := h
    have later : time ≤ readyAt now (done + field.length) script :=
      Nat.le_trans ht (readyAt_mono (Nat.le_add_right ..))
    refine ⟨?_, ih others later⟩
    rw [readyAt_eq_of_le hn ht, readyAt_eq_of_le hn later]
    exact early

theorem Punctual.resumes (h : Punctual limit now script (count + done) fields)
    (hr : Resumes count now script left) : Punctual limit now left done fields := by
  induction fields generalizing done with
  | nil => trivial
  | cons field fields ih =>
    obtain ⟨early, others⟩ := h
    rw [Nat.add_assoc] at early others
    refine ⟨?_, ih others⟩
    rw [hr now _ (Nat.le_refl now), hr now _ (Nat.le_refl now)]
    exact early

theorem punctual_of_readyAt_eq (h : readyAt now (done + fields.flatten.length) script = now) :
    Punctual limit now script done fields := by
  induction fields generalizing done with
  | nil => trivial
  | cons field fields ih =>
    rw [List.flatten_cons, List.length_append, ← Nat.add_assoc] at h
    refine ⟨fun most _ => ?_, ih h⟩
    have there : readyAt now (done + field.length) script ≤ now :=
      Nat.le_trans (readyAt_mono (Nat.le_add_right ..)) (Nat.le_of_eq h)
    exact Nat.le_trans there (Nat.le_trans (le_readyAt ..) (Nat.le_add_right ..))

end Source

open Source (Punctual)

namespace Handshake

variable {α β : Type} {limit : Option Nat} {fields more : List (List UInt8)}
  {lines further : List LogLine}

/-- A part reads exactly these fields if they arrive in time, logs these lines, and says nothing. -/
def Manages (limit : Option Nat) (part : Dialogue α) (fields : List (List UInt8))
    (lines : List LogLine) (result : Except HandshakeHalt α) : Prop :=
  ∀ (talk : Conversation) (tail : List Event) (rest : List UInt8),
    Brings tail talk.source.script (fields.flatten ++ rest) →
    Punctual limit talk.now talk.source.script 0 fields →
    ∃ source, part talk = (result, ⟨readyAt talk.now fields.flatten.length talk.source.script,
        source, talk.sink, talk.log ++ lines⟩) ∧
      Source.Handed tail fields.flatten rest
        (readyAt talk.now fields.flatten.length talk.source.script) talk.source source

theorem Manages.bind {first : Dialogue α} {next : α → Dialogue β} {value : α}
    {result : Except HandshakeHalt β} (hf : Manages limit first fields lines (.ok value))
    (hn : Manages limit (next value) more further result) :
    Manages limit (first >>= next) (fields ++ more) (lines ++ further) result := by
  intro talk tail rest brings early
  obtain ⟨early, then_early⟩ := Source.punctual_append.mp early
  rw [List.flatten_append, List.append_assoc] at brings
  obtain ⟨middle, hr, handed⟩ := hf talk tail (more.flatten ++ rest) brings early
  have ready := handed.readyAt_eq more.flatten.length
  have sooner : readyAt talk.now fields.flatten.length talk.source.script ≤
      readyAt talk.now (fields.flatten.length + more.flatten.length) talk.source.script :=
    Source.readyAt_mono (Nat.le_add_right ..)
  rw [Nat.zero_add] at then_early
  have then_early : Source.Punctual limit (readyAt talk.now fields.flatten.length talk.source.script)
      middle.script 0 more :=
    (then_early.postpone (Source.le_readyAt ..) (Nat.le_refl _)).resumes handed.resumes
  obtain ⟨after, hr', handed'⟩ := hn ⟨_, middle, talk.sink, talk.log ++ lines⟩ tail rest
    handed.brings then_early
  rw [ready] at hr' handed'
  rw [List.flatten_append, List.length_append]
  refine ⟨after, ?_, handed.trans handed' sooner⟩
  rw [bind_of_ok hr, hr', List.append_assoc]

theorem Manages.pure (value : α) :
    Manages limit (Pure.pure value : Dialogue α) [] [] (.ok value) := by
  intro talk tail rest brings _
  simp only [List.flatten_nil, List.length_nil, Source.readyAt_zero, List.append_nil]
  exact ⟨talk.source, rfl, .refl talk.now brings⟩

theorem Manages.throw (halt : HandshakeHalt) :
    Manages limit (MonadExcept.throw halt : Dialogue α) [] [] (.error halt) := by
  intro talk tail rest brings _
  simp only [List.flatten_nil, List.length_nil, Source.readyAt_zero, List.append_nil]
  exact ⟨talk.source, rfl, .refl talk.now brings⟩

theorem Manages.judge {first : Dialogue α} {next : α → Dialogue β} {value : α}
    {result : Except HandshakeHalt β} (hf : Manages limit first fields lines (.ok value))
    (hn : Manages limit (next value) [] [] result) :
    Manages limit (first >>= next) fields lines result := by
  have whole : Manages limit (first >>= next) (fields ++ []) (lines ++ []) result := hf.bind hn
  rwa [List.append_nil, List.append_nil] at whole

theorem note_manages (level : Level) (message : String) :
    Manages limit (note level message) [] [⟨level, message⟩] (.ok ()) := by
  intro talk tail rest brings _
  simp only [List.flatten_nil, List.length_nil, Source.readyAt_zero]
  exact ⟨talk.source, rfl, .refl talk.now brings⟩

theorem timed_manages {step : Step} {field : Option Nat → FieldReader α} {value : α}
    (hf : ∀ deadline, Wire.Collects deadline (field deadline) used value) :
    Manages limit (timed step limit field) [used] [] (.ok value) := by
  intro talk tail rest brings early
  rw [List.flatten_singleton] at brings ⊢
  have soon : ∀ moment ∈ limit.map (talk.now + ·),
      readyAt talk.now used.length talk.source.script ≤ moment := by
    intro moment hm
    obtain ⟨most, hl, rfl⟩ := Option.map_eq_some_iff.mp hm
    simpa using early.1 most hl
  obtain ⟨source, hr, handed⟩ := hf _ ⟨talk.now, talk.source⟩ tail rest brings soon
  refine ⟨source, ?_, handed⟩
  simp only [timed, hr, List.append_nil]
  rfl

variable {hello : List UInt8} {readTimeout : Nat} {milliseconds : Int32}

theorem greet_manages (readTimeout : Nat) (fits : hello.length < 65536) :
    Manages (some readTimeout) (greet readTimeout) [Wire.frame hello] [greeted hello] (.ok ()) :=
  (timed_manages fun _ => Wire.skipString_collects fits).bind (note_manages .debug _)

theorem demandSecret_manages (secret : Secret) (readTimeout : Nat) :
    Manages (some readTimeout) (demandSecret secret readTimeout) [secret.bytes] [] (.ok ()) := by
  refine (timed_manages fun _ => Wire.readBytes_collects secret.length_bytes).judge ?_
  rw [checkSecret, if_pos (Secret.admits_iff.mpr rfl)]
  exact Manages.pure ()

/-- The time limit that a client gets for its destination: none if it asks for zero. -/
def pooling (milliseconds : Int32) : Option Nat :=
  if milliseconds.toInt = 0 then none else some milliseconds.toInt.toNat

theorem learnLimit_manages (positive : 0 ≤ milliseconds.toInt) :
    Manages (some readTimeout) (learnLimit readTimeout) [Wire.encodeI32 milliseconds] []
      (.ok (pooling milliseconds)) := by
  refine (timed_manages fun _ => Wire.readI32_collects milliseconds).judge ?_
  rw [requestedLimit, if_neg (Int.not_lt.mpr positive), pooling]
  split <;> exact Manages.pure _

theorem learnLimit_manages_negative (negative : milliseconds.toInt < 0) :
    Manages (some readTimeout) (learnLimit readTimeout) [Wire.encodeI32 milliseconds] []
      (.error (.failed (.protocol .timeout (.negativeTimeout milliseconds)))) := by
  refine (timed_manages fun _ => Wire.readI32_collects milliseconds).judge ?_
  rw [requestedLimit, if_pos negative]
  exact Manages.throw _

/-- Up to the status byte, the time limit that the client asks for decides. -/
theorem identify_manages {limit : Except HandshakeHalt (Option Nat)} (secret : Secret)
    (fits : hello.length < 65536)
    (hl : Manages (some readTimeout) (learnLimit readTimeout) [Wire.encodeI32 milliseconds] []
      limit) :
    Manages (some readTimeout) (identify secret readTimeout)
      [Wire.frame hello, secret.bytes, Wire.encodeI32 milliseconds] [greeted hello] limit :=
  (greet_manages _ fits).bind ((demandSecret_manages secret _).bind hl)

theorem learnDestination_manages {host : String} (port : UInt16) (limit : Option Nat)
    (fits : (Utf8.encode host).length < 65536) :
    Manages limit (learnDestination limit) [Wire.frame (Utf8.encode host), Wire.encodeU16 port] []
      (.ok ⟨host, port⟩) := by
  refine (timed_manages fun _ => Wire.readString_collects fits).bind ?_
  exact (timed_manages fun _ => Wire.readU16_collects port).judge (Manages.pure _)

end Handshake

end TunnelServer
