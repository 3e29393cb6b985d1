import TunnelServer.Proofs.Handshake.Waiting
import TunnelServer.Proofs.Stream.Pieces

/-!
# Strings one after another

A stream holds strings, each after its length. Whoever reads some of them and skips the others
always stands between two strings, also after one that is no text, so no answer depends on which
calls were made before. Where the stream ends within a string, both calls take what there is and
fail.
-/

namespace TunnelServer

open Source (Brings Handed readyAt)

namespace Wire

/-- The two ways to take a string from a stream. -/
inductive StringCall where
  | read
  | skip
deriving DecidableEq, Repr

inductive StringAnswer where
  | text (text : String)
  | length (length : Nat)
deriving DecidableEq, Repr

/-- Neither call has a deadline of its own. -/
def StringCall.perform : StringCall → FieldReader StringAnswer
  | .read => do
    let text ← readString none
    return .text text
  | .skip => do
    let length ← skipString none
    return .length length

/-- The answers to calls that are made one after another, whatever became of those before, each
with the reader after it. -/
def performAll : List StringCall → Reader → List (Except FieldHalt StringAnswer × Reader)
  | [], _ => []
  | call :: calls, reader => call.perform reader :: performAll calls (call.perform reader).2

/-- The reader after calls that are made one after another. -/
def pass (calls : List StringCall) (reader : Reader) : Reader :=
  calls.foldl (fun reader call => (call.perform reader).2) reader

/-- What a call answers where the stream holds a string with these bytes. -/
inductive Answers (body : List UInt8) : StringCall → Except FieldHalt StringAnswer → Prop where
  | skipped : Answers body .skip (.ok (.length body.length))
  | read {text : String} : Utf8.encode text = body → Answers body .read (.ok (.text text))
  | undecodable : (∀ text, Utf8.encode text ≠ body) →
      Answers body .read (.error (.failed .invalidUtf8))

/-- Strings as they travel, one after another. -/
def frames (bodies : List (List UInt8)) : List UInt8 := bodies.flatMap frame

@[simp] theorem frames_nil : frames [] = [] := rfl

@[simp] theorem frames_cons (body : List UInt8) (bodies : List (List UInt8)) :
    frames (body :: bodies) = frame body ++ frames bodies := List.flatMap_cons

@[simp] theorem frames_append (bodies more : List (List UInt8)) :
    frames (bodies ++ more) = frames bodies ++ frames more := List.flatMap_append

variable {α β : Type} {deadline : Option Nat} {used body : List UInt8} {halt : FieldHalt}

theorem Waits.bind_error {first : FieldReader α} {next : α → FieldReader β}
    (h : Waits deadline first used (.error halt)) :
    Waits deadline (first >>= next) used (.error halt) := by
  intro reader got front
  obtain ⟨result, after, hr, hs, ht, ended⟩ := h reader front
  rcases ended with ⟨complete, rfl⟩ | ⟨cause, halts, rfl⟩
  · exact ⟨_, after, bind_of_error hr, hs, ht, .inl ⟨complete, rfl⟩⟩
  · exact ⟨_, after, bind_of_error hr, hs, ht, .inr ⟨cause, halts, rfl⟩⟩

theorem StringCall.exists_waits (call : StringCall) (h : body.length < 65536) :
    ∃ answer, Waits none call.perform (frame body) answer ∧ Answers body call answer := by
  cases call with
  | skip => exact ⟨_, (skipString_waits h).judge (.pure _), .skipped⟩
  | read =>
    have waits : Waits none (readString none) (frame body) (textOf body) := readString_waits h
    cases decoded : Utf8.decode? body with
    | some text =>
      simp only [textOf, decoded] at waits
      exact ⟨_, waits.judge (.pure _), .read (Utf8.eq_encode_of_decode? decoded).symm⟩
    | none =>
      simp only [textOf, decoded] at waits
      refine ⟨_, waits.bind_error, .undecodable ?_⟩
      rintro text rfl
      rw [Utf8.decode?_encode] at decoded
      cases decoded

variable {tail : List Event} {rest part : List UInt8} {reader : Reader}

theorem StringCall.perform_frame (call : StringCall) (h : body.length < 65536)
    (brings : Brings tail reader.source.script (frame body ++ rest)) :
    ∃ answer after, call.perform reader = (answer, after) ∧ Answers body call answer ∧
      after.source.taken = reader.source.taken ++ frame body ∧
      Brings tail after.source.script rest := by
  obtain ⟨answer, waits, answers⟩ := call.exists_waits h
  have enough : (frame body).length ≤ (frame body ++ rest).length := by simp
  have unlimited : ∀ limit ∈ (none : Option Nat),
      readyAt reader.now (frame body).length reader.source.script ≤ limit := by simp
  obtain ⟨left, gathered, brings', -⟩ := brings.gather enough unlimited
  rw [List.take_left] at gathered
  rw [List.drop_left] at brings'
  obtain ⟨result, source, performed, script, taken, ended⟩ :=
    waits reader (by simp [gathered])
  rw [gathered] at performed script taken ended
  rcases ended with ⟨-, rfl⟩ | ⟨_, halts, -⟩
  · exact ⟨_, _, performed, answers, taken, script ▸ brings'⟩
  · exact absurd rfl halts.incomplete

theorem StringCall.perform_cut (call : StringCall) (h : body.length < 65536)
    (front : part <+: frame body) (short : part ≠ frame body) {due : Nat} {later : List Event}
    (brings : Brings (⟨due, .endOfStream⟩ :: later) reader.source.script part) :
    ∃ cause after, call.perform reader = (.error (.failed (.io cause)), after) ∧
      cause.kind = .unexpectedEof ∧ after.source.taken = reader.source.taken ++ part := by
  obtain ⟨answer, waits, -⟩ := call.exists_waits h
  have less : part.length < (frame body).length := by
    apply Nat.lt_of_le_of_ne front.length_le
    exact fun same => short (front.eq_of_length same)
  have unlimited : ∀ limit ∈ (none : Option Nat),
      readyAt reader.now (part.length + 1) reader.source.script ≤ limit := by simp
  obtain ⟨outcome, left, gathered, why⟩ := brings.gather_of_interrupted less unlimited
  obtain ⟨rfl, -⟩ | ⟨kind, -, no⟩ := why
  · obtain ⟨result, source, performed, -, taken, ended⟩ :=
      waits reader (by rw [gathered]; exact front)
    rw [gathered] at performed taken ended
    rcases ended with ⟨no, -⟩ | ⟨_, ⟨unexpected⟩, rfl⟩
    · cases no
    · exact ⟨_, _, performed, unexpected, taken⟩
  · cases no

theorem performAll_getElem? {calls : List StringCall} {place : Nat} {call : StringCall}
    (there : calls[place]? = some call) :
    (performAll calls reader)[place]? = some (call.perform (pass (calls.take place) reader)) := by
  induction calls generalizing reader place with
  | nil => simp at there
  | cons first calls ih =>
    cases place with
    | zero =>
      obtain rfl : first = call := by simpa using there
      rfl
    | succ place => exact ih (by simpa using there)

theorem pass_frames (steps : List (StringCall × List UInt8))
    (sized : ∀ step ∈ steps, step.2.length < 65536)
    (brings : Brings tail reader.source.script (frames (steps.map Prod.snd) ++ rest)) :
    (pass (steps.map Prod.fst) reader).source.taken =
        reader.source.taken ++ frames (steps.map Prod.snd) ∧
      Brings tail (pass (steps.map Prod.fst) reader).source.script rest := by
  induction steps generalizing reader with
  | nil => exact ⟨(List.append_nil _).symm, brings⟩
  | cons step steps ih =>
    obtain ⟨call, body⟩ := step
    rw [List.map_cons, frames_cons, List.append_assoc] at brings
    obtain ⟨answer, after, performed, -, taken, left⟩ :=
      call.perform_frame (sized (call, body) List.mem_cons_self) brings
    obtain ⟨taken', left'⟩ := ih (fun step mem => sized step (List.mem_cons_of_mem _ mem)) left
    have onwards : pass (((call, body) :: steps).map Prod.fst) reader =
        pass (steps.map Prod.fst) after := by
      rw [List.map_cons, pass, List.foldl_cons, performed, pass]
    rw [onwards]
    refine ⟨?_, left'⟩
    rw [taken', taken, List.map_cons, frames_cons, List.append_assoc]

/-- After each of the calls the stream stands between two strings. -/
theorem performAll_frames {steps : List (StringCall × List UInt8)}
    (sized : ∀ step ∈ steps, step.2.length < 65536)
    (brings : Brings tail reader.source.script (frames (steps.map Prod.snd) ++ rest))
    {place : Nat} {call : StringCall} (there : steps[place]? = some (call, body)) :
    ∃ answer after, (performAll (steps.map Prod.fst) reader)[place]? = some (answer, after) ∧
      Answers body call answer ∧
      after.source.taken =
        reader.source.taken ++ frames ((steps.map Prod.snd).take (place + 1)) ∧
      Brings tail after.source.script (frames ((steps.map Prod.snd).drop (place + 1)) ++ rest) := by
  obtain ⟨before, behind, rfl, rfl⟩ :
      ∃ before behind, steps = before ++ (call, body) :: behind ∧ place = before.length := by
    obtain ⟨bound, here⟩ := List.getElem?_eq_some_iff.mp there
    refine ⟨steps.take place, steps.drop (place + 1), ?_, ?_⟩
    · rw [← here, ← List.drop_eq_getElem_cons, List.take_append_drop]
    · rw [List.length_take]
      omega
  have split : (before ++ (call, body) :: behind).map Prod.snd =
      (before.map Prod.snd ++ [body]) ++ behind.map Prod.snd := by simp
  have size : (before.map Prod.snd ++ [body]).length = before.length + 1 := by simp
  have front : frames (before.map Prod.snd ++ [body]) =
      frames (before.map Prod.snd) ++ frame body := by simp
  rw [split, List.take_left' size, List.drop_left' size, front]
  rw [split, frames_append, front, List.append_assoc, List.append_assoc] at brings
  obtain ⟨taken, left⟩ :=
    pass_frames before (fun step mem => sized step (List.mem_append_left _ mem)) brings
  obtain ⟨answer, after, performed, answers, taken', left'⟩ :=
    call.perform_frame (sized (call, body) (by simp)) left
  refine ⟨answer, after, ?_, answers, ?_, left'⟩
  · have here : ((before ++ (call, body) :: behind).map Prod.fst)[before.length]? = some call := by
      simp
    rw [performAll_getElem? here, List.map_append, List.take_left' (by simp), performed]
  · rw [taken', taken, List.append_assoc]

/-- The call that meets the end of the stream within a string takes what is there and fails. -/
theorem performAll_cut {steps : List (StringCall × List UInt8)} (call : StringCall)
    (sized : ∀ step ∈ steps, step.2.length < 65536) (h : body.length < 65536)
    (front : part <+: frame body) (short : part ≠ frame body) {due : Nat} {later : List Event}
    (brings : Brings (⟨due, .endOfStream⟩ :: later) reader.source.script
      (frames (steps.map Prod.snd) ++ part)) :
    ∃ cause after, (performAll (steps.map Prod.fst ++ [call]) reader)[steps.length]? =
        some (.error (.failed (.io cause)), after) ∧ cause.kind = .unexpectedEof ∧
      after.source.taken = reader.source.taken ++ frames (steps.map Prod.snd) ++ part := by
  obtain ⟨taken, left⟩ := pass_frames steps sized brings
  obtain ⟨cause, after, performed, kind, taken'⟩ := call.perform_cut h front short left
  refine ⟨cause, after, ?_, kind, taken ▸ taken'⟩
  have here : (steps.map Prod.fst ++ [call])[steps.length]? = some call := by simp
  rw [performAll_getElem? here, List.take_left' (by simp), performed]

/-- Reading and skipping strings stay in step. Where the stream brings strings, and whatever else
after them, each call answers for its own string, which is gone with it, and the strings and the
bytes behind it are still there, also if it is no text. If the stream ends before or within a
string, a call takes what is there of it and fails for that reason. It makes no difference whether
the bytes of a string are taken at once, as to read them, or in pieces, as to skip them. -/
theorem strings_stay_in_step (reader : Reader) (steps : List (StringCall × List UInt8))
    (sized : ∀ step ∈ steps, step.2.length ≤ 65535) :
    (∀ tail rest, Brings tail reader.source.script (frames (steps.map Prod.snd) ++ rest) →
      ∀ place call body, steps[place]? = some (call, body) →
        ∃ answer after,
          (performAll (steps.map Prod.fst) reader)[place]? = some (answer, after) ∧
          Answers body call answer ∧
          after.source.taken =
            reader.source.taken ++ frames ((steps.map Prod.snd).take (place + 1)) ∧
          Brings tail after.source.script
            (frames ((steps.map Prod.snd).drop (place + 1)) ++ rest)) ∧
    (∀ due later call (body part : List UInt8), body.length ≤ 65535 → part <+: frame body →
      part ≠ frame body →
      Brings (⟨due, .endOfStream⟩ :: later) reader.source.script
        (frames (steps.map Prod.snd) ++ part) →
      ∃ cause after,
        (performAll (steps.map Prod.fst ++ [call]) reader)[steps.length]? =
          some (.error (.failed (.io cause)), after) ∧
        cause.kind = .unexpectedEof ∧
        after.source.taken = reader.source.taken ++ frames (steps.map Prod.snd) ++ part) ∧
    ∀ room wanted now script, Source.discard none (room + 1) wanted now script =
      Source.gather none wanted now script := by
  have sized' : ∀ step ∈ steps, step.2.length < 65536 :=
    fun step mem => Nat.lt_succ_of_le (sized step mem)
  refine ⟨?_, ?_, ?_⟩
  · intro tail rest brings place call body there
    exact performAll_frames sized' brings there
  · intro due later call body part fits front short brings
    exact performAll_cut call sized' (Nat.lt_succ_of_le fits) front short brings
  · intro room wanted now script
    exact Source.discard_eq_gather (Nat.succ_pos room) rfl

/-- Two strings that are no text, an empty one, and one of two bytes. -/
def medley : List (StringCall × List UInt8) :=
  [(.skip, [0xC0, 0x80]), (.read, [0xFF]), (.read, []), (.read, [0xC3, 0xA9])]

/-- The strings arrive in pieces that end within them. -/
def medleyReader : Reader where
  now := 0
  source := .ofScript [⟨0, .data [0, 2, 0xC0]⟩, ⟨3, .data [0x80, 0]⟩, ⟨5, .data [1, 0xFF, 0, 0, 0]⟩,
    ⟨9, .data [2, 0xC3, 0xA9, 7]⟩, ⟨20, .endOfStream⟩]

theorem strings_stay_in_step_medley :
    (∀ step ∈ medley, step.2.length ≤ 65535) ∧
      Brings [⟨20, .endOfStream⟩] medleyReader.source.script
        (frames (medley.map Prod.snd) ++ [7]) ∧
      ∃ after, (performAll (medley.map Prod.fst) medleyReader)[3]? =
          some (.ok (.text "é"), after) ∧
        Brings [⟨20, .endOfStream⟩] after.source.script [7] := by
  have sized : ∀ step ∈ medley, step.2.length ≤ 65535 := by decide
  have brings : Brings [⟨20, .endOfStream⟩] medleyReader.source.script
      (frames (medley.map Prod.snd) ++ [7]) := .piece (.piece (.piece (.piece (.done rfl))))
  refine ⟨sized, brings, ?_⟩
  obtain ⟨answer, after, found, answers, -, left⟩ :=
    (strings_stay_in_step medleyReader medley sized).1 _ _ brings 3 .read [0xC3, 0xA9] rfl
  have whole : Utf8.encode "é" = [0xC3, 0xA9] := by decide
  cases answers with
  | read same =>
    obtain rfl := Utf8.encode_injective (same.trans whole.symm)
    exact ⟨after, found, left⟩
  | undecodable none => exact absurd whole (none "é")

end Wire

end TunnelServer
