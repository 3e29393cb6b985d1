import TunnelServer.Proofs.Handshake.Acceptance

/-!
# What a handshake comes to

Whatever the client says and whatever its connection does, a destination is learned only from a
request in full, and a handshake that failed before the status byte has sent nothing.
-/

namespace TunnelServer

/-- Nothing has been sent when such a step fails. -/
def Step.Silent : Step → Prop
  | .hello | .secret | .timeout => True
  | .status | .destination => False

namespace Wire

variable {deadline : Option Nat}

theorem decoded_hears (body : List UInt8) {part : FieldReader String}
    (well : ∀ text, Utf8.decode? body = some text → part = pure text)
    (ill : Utf8.decode? body = none → part = throw (.failed .invalidUtf8)) :
    Hears heardBy part fun text bytes => body = Utf8.encode text ∧ bytes = [] := by
  cases hd : Utf8.decode? body with
  | none =>
    rw [ill hd]
    exact Hears.throw _
  | some text =>
    rw [well text hd]
    refine (Hears.pure text).mono ?_
    rintro _ _ ⟨rfl, rfl⟩
    exact ⟨Utf8.decode?_eq_some_iff.mp hd, rfl⟩

theorem readString_hears :
    Hears heardBy (readString deadline) fun text bytes =>
      (Utf8.encode text).length < 65536 ∧ bytes = frame (Utf8.encode text) := by
  unfold readString
  refine Hears.mono (readU16_hears.bind fun length =>
    (readBytes_hears length.toNat .earlyEnd).bind fun body => decoded_hears body ?_ ?_) ?_
  · intro text hd
    simp only [hd]
  · intro hd
    simp only [hd]
  rintro text _ ⟨length, _, _, rfl, rfl, _, _, _, rfl, ⟨rfl, whole⟩, rfl, rfl⟩
  constructor
  · rw [whole]
    exact length.toNat_lt
  · rw [List.append_nil, frame, whole, encodeU16]

end Wire

namespace Handshake

variable {α β : Type}

theorem learnDestination_hears (pooling : Option Nat) :
    Hears heardIn (learnDestination pooling) fun destination bytes =>
      (Utf8.encode destination.host).length < 65536 ∧
        bytes = Wire.frame (Utf8.encode destination.host) ++ Wire.encodeU16 destination.port := by
  have name : Hears heardIn (timed .destination pooling Wire.readString) fun text bytes =>
      (Utf8.encode text).length < 65536 ∧ bytes = Wire.frame (Utf8.encode text) :=
    timed_hears fun _ => Wire.readString_hears
  have number : Hears heardIn (timed .destination pooling Wire.readU16) fun value bytes =>
      bytes = Wire.encodeU16 value := timed_hears fun _ => Wire.readU16_hears
  refine (name.bind fun host => number.bind fun port =>
    Hears.pure (⟨host, port⟩ : Destination)).mono ?_
  rintro _ _ ⟨host, _, _, rfl, ⟨fits, rfl⟩, port, _, _, rfl, rfl, rfl, rfl⟩
  refine ⟨fits, ?_⟩
  rw [List.append_nil]

theorem sendByte_hears (step : Step) (byte : UInt8) :
    Hears heardIn (sendByte step byte) fun _ bytes => bytes = [] := by
  intro talk
  refine ⟨[], ?_, fun _ _ => rfl⟩
  rw [List.append_nil]
  rcases sendByte_cases step byte talk with ⟨_, _, he⟩ | ⟨_, _, _, he⟩ | ⟨_, _, he⟩
  all_goals
    rw [he]
    rfl

/-- A destination is learned from exactly a request for it. -/
theorem run_hears (secret : Secret) (readTimeout : Nat) :
    Hears heardIn (run secret readTimeout) fun destination bytes =>
      IsRequest secret destination bytes := by
  refine ((identify_hears secret readTimeout).bind fun pooling =>
    (sendByte_hears .status Status.ok.code).bind fun _ => learnDestination_hears pooling).mono ?_
  rintro destination _ ⟨_, _, _, rfl, ⟨hello, milliseconds, fits, positive, rfl⟩, _, _, _, rfl, rfl,
    fits', rfl⟩
  exact ⟨hello, milliseconds, fits, positive, fits', rfl⟩

/-- Whenever a part fails, the failure is put down to one of these steps. -/
def Blames (steps : Step → Prop) (part : Dialogue α) : Prop :=
  ∀ talk cause, (part talk).1 = .error (.failed cause) → steps cause.step

variable {steps : Step → Prop} {first : Dialogue α} {next : α → Dialogue β}

theorem Blames.bind (hf : Blames steps first) (hn : ∀ value, Blames steps (next value)) :
    Blames steps (first >>= next) := by
  intro talk cause h
  rcases hs : first talk with ⟨halt | value, after⟩
  · rw [bind_of_error hs] at h
    cases h
    exact hf talk cause (congrArg Prod.fst hs)
  · rw [bind_of_ok hs] at h
    exact hn value after cause h

theorem Blames.pure (value : α) : Blames steps (Pure.pure value : Dialogue α) := by
  intro talk cause h
  cases h

theorem timed_blames {step : Step} {limit : Option Nat} {field : Option Nat → FieldReader α}
    (hs : steps step) : Blames steps (timed step limit field) := by
  intro talk cause h
  rcases hr : field (limit.map (talk.now + ·)) ⟨talk.now, talk.source⟩ with ⟨halt | value, reader⟩
  · rw [timed, hr] at h
    cases halt <;> cases h <;> exact hs
  · rw [timed, hr] at h
    cases h

theorem sendByte_blames {step : Step} {byte : UInt8} (hs : steps step) :
    Blames steps (sendByte step byte) := by
  intro talk cause h
  simp only [sendByte] at h
  split at h
  · cases h
  · split at h
    · cases h
    · cases h
      exact hs
    · cases h
      exact hs
    · split at h
      · cases h
        exact hs
      · cases h
      · cases h

theorem learnDestination_blames {pooling : Option Nat} (hs : steps .destination) :
    Blames steps (learnDestination pooling) := by
  have name : Blames steps (timed .destination pooling Wire.readString) := timed_blames hs
  have number : Blames steps (timed .destination pooling Wire.readU16) := timed_blames hs
  exact name.bind fun _ => number.bind fun _ => Blames.pure _

theorem answer_blames (pooling : Option Nat) :
    Blames (fun step => ¬ step.Silent)
      (sendByte .status Status.ok.code >>= fun _ => learnDestination pooling) :=
  (sendByte_blames id).bind fun _ => learnDestination_blames id

end Handshake

/-- What a handshake has taken and sent when it ends. -/
structure Outcome (secret : Secret) (result : Except HandshakeHalt Destination)
    (talk : Conversation) : Prop where
  asked : ∀ destination, result = .ok destination →
    IsRequest secret destination talk.source.taken ∧ talk.sink.accepted = [0]
  sent : talk.sink.accepted = [] ∨ talk.sink.accepted = [0]
  silent : ∀ cause, result = .error (.failed cause) → cause.step.Silent → talk.sink.accepted = []

theorem authenticate_outcome (secret : Secret) (readTimeout start : Nat) (script : List Event)
    (plan : SinkPlan) (log : List LogLine) :
    let ended := authenticate secret readTimeout ⟨start, .ofScript script, .ofPlan plan, log⟩
    Outcome secret ended.1 ended.2 := by
  intro ended
  let talk : Conversation := ⟨start, .ofScript script, .ofPlan plan, log⟩
  obtain ⟨request, taken, requested⟩ := Handshake.run_hears secret readTimeout talk
  obtain ⟨bytes, taken', authentic⟩ := Handshake.identify_hears secret readTimeout talk
  have kept : (Handshake.identify secret readTimeout talk).2.sink = .ofPlan plan :=
    Handshake.identify_keeps secret readTimeout talk
  have asked (destination : Destination) (h : ended.1 = .ok destination) :
      IsRequest secret destination ended.2.source.taken := by
    have same : ended.2.source.taken = request := taken
    rw [same]
    exact requested destination h
  rcases hi : Handshake.identify secret readTimeout talk with ⟨halt | pooling, after⟩
  all_goals rw [hi] at taken' authentic kept
  · have stop : ended = (.error halt, after) := bind_of_error hi
    have quiet : ended.2.sink.accepted = [] := by
      rw [stop, kept]
      rfl
    refine ⟨fun destination h => ?_, .inl quiet, fun _ _ _ => quiet⟩
    rw [stop] at h
    cases h
  · have heard : after.source.taken = bytes := taken'
    have answer := reticent_answer pooling (heard ▸ authentic pooling rfl) kept
    have later : ended = (Handshake.sendByte .status Status.ok.code >>= fun _ =>
        Handshake.learnDestination pooling) after := bind_of_ok hi
    rw [← later] at answer
    refine ⟨fun destination h => ⟨asked destination h, (answer.answered destination h).1⟩,
      answer.sent, fun cause failed silent => ?_⟩
    rw [later] at failed
    exact absurd silent (Handshake.answer_blames pooling after cause failed)

end TunnelServer
