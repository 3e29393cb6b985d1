import TunnelServer.Proofs.Handshake.Grammar
import TunnelServer.Proofs.Handshake.Hearing
import TunnelServer.Proofs.Stream.Gathering
import TunnelServer.Proofs.Wire.Skipping

/-!
# Silence before authentication

A client that has not shown the secret and a time limit hears nothing: nothing is asked of the sink
before exactly a greeting, the secret and a time limit that is not negative were taken. In a whole
handshake at most the status byte is sent.
-/

namespace TunnelServer

/-- These bytes are all that authenticates a client, and no more. -/
def Authenticates (secret : Secret) (bytes : List UInt8) : Prop :=
  ∃ hello milliseconds, hello.length < 65536 ∧ 0 ≤ milliseconds.toInt ∧
    bytes = introduction hello secret milliseconds

namespace Wire

variable {deadline : Option Nat}

/-- What a reader of fields has taken. -/
def heardBy (reader : Reader) : List UInt8 := reader.source.taken

theorem readBytes_hears (wanted : Nat) (short : IoError) :
    Hears heardBy (readBytes deadline wanted short) fun value bytes =>
      bytes = value ∧ value.length = wanted := by
  intro reader
  refine ⟨_, Source.taken_takeExactly reader.source, ?_⟩
  intro value h
  simp only [readBytes, conclude] at h
  split at h
  case h_1 complete =>
    cases h
    exact ⟨rfl, Source.length_gather complete⟩
  all_goals cases h

theorem readU16_hears :
    Hears heardBy (readU16 deadline) fun value bytes => bytes = encodeU16 value := by
  refine ((readBytes_hears 2 _).bind fun bytes => Hears.pure _).mono ?_
  rintro value bytes ⟨read, before, later, rfl, ⟨rfl, hl⟩, rfl, rfl⟩
  rw [List.append_nil, encodeU16_decodeU16 hl]

theorem readI32_hears :
    Hears heardBy (readI32 deadline) fun value bytes => bytes = encodeI32 value := by
  refine ((readBytes_hears 4 _).bind fun bytes => Hears.pure _).mono ?_
  rintro value bytes ⟨read, before, later, rfl, ⟨rfl, hl⟩, rfl, rfl⟩
  rw [List.append_nil, encodeI32_decodeI32 hl]

theorem skipString_hears :
    Hears heardBy (skipString deadline) fun _ bytes =>
      ∃ text : List UInt8, text.length < 65536 ∧ bytes = frame text := by
  rw [skipString_eq]
  refine (readU16_hears.bind fun length => (readBytes_hears length.toNat _).bind fun _ =>
    Hears.pure length.toNat).mono ?_
  rintro value bytes ⟨length, before, later, rfl, rfl, text, body, none, rfl, ⟨rfl, hl⟩, rfl, rfl⟩
  refine ⟨body, ?_, ?_⟩
  · rw [hl]
    exact length.toNat_lt
  · rw [List.append_nil, frame, hl, encodeU16]

end Wire

namespace Handshake

/-- What the server has taken in a conversation. -/
def heardIn (talk : Conversation) : List UInt8 := talk.source.taken

variable {α κ : Type} {step : Step} {limit : Option Nat} {field : Option Nat → FieldReader α}
  {view : Conversation → κ}

theorem timed_hears {form : α → List UInt8 → Prop}
    (hf : ∀ deadline, Hears Wire.heardBy (field deadline) form) :
    Hears heardIn (timed step limit field) form := by
  intro talk
  obtain ⟨bytes, hb, formed⟩ := hf (limit.map (talk.now + ·)) ⟨talk.now, talk.source⟩
  refine ⟨bytes, hb, ?_⟩
  intro value h
  rcases hr : field (limit.map (talk.now + ·)) ⟨talk.now, talk.source⟩ with ⟨halt | read, reader⟩
  · rw [timed, hr] at h
    cases h
  · rw [timed, hr] at h
    cases h
    exact formed value (congrArg Prod.fst hr)

theorem timed_keeps (reads : ∀ talk now source, view { talk with now, source } = view talk) :
    Keeps view (timed step limit field) := fun _ => reads ..

theorem note_hears (level : Level) (message : String) :
    Hears heardIn (note level message) fun _ bytes => bytes = [] :=
  fun _ => ⟨[], (List.append_nil _).symm, fun _ _ => rfl⟩

theorem note_keeps {level : Level} (notes : ∀ talk message,
    view { talk with log := talk.log ++ [⟨level, message⟩] } = view talk) (message : String) :
    Keeps view (note level message) := fun talk => notes talk message

theorem checkSecret_hears (secret : Secret) (candidate : List UInt8) :
    Hears heardIn (checkSecret secret candidate) fun _ bytes =>
      bytes = [] ∧ candidate = secret.bytes := by
  unfold checkSecret
  split
  case isTrue h =>
    exact (Hears.pure _).mono fun _ _ empty => ⟨empty.2, Secret.admits_iff.mp h⟩
  case isFalse => exact Hears.throw _

theorem checkSecret_keeps (secret : Secret) (candidate : List UInt8) :
    Keeps view (checkSecret secret candidate) := by
  unfold checkSecret
  split
  · exact Keeps.pure _
  · exact Keeps.throw _

theorem requestedLimit_hears (milliseconds : Int32) :
    Hears heardIn (requestedLimit milliseconds) fun _ bytes =>
      bytes = [] ∧ 0 ≤ milliseconds.toInt := by
  unfold requestedLimit
  split
  case isTrue => exact Hears.throw _
  case isFalse h =>
    have positive : 0 ≤ milliseconds.toInt := Int.not_lt.mp h
    split <;> exact (Hears.pure _).mono fun _ _ empty => ⟨empty.2, positive⟩

theorem requestedLimit_keeps (milliseconds : Int32) :
    Keeps view (requestedLimit milliseconds) := by
  unfold requestedLimit
  split
  · exact Keeps.throw _
  · split <;> exact Keeps.pure _

theorem identify_keeps_of (reads : ∀ talk now source, view { talk with now, source } = view talk)
    (notes : ∀ talk message, view { talk with log := talk.log ++ [⟨.debug, message⟩] } = view talk)
    (secret : Secret) (readTimeout : Nat) : Keeps view (identify secret readTimeout) := by
  have greeting : Keeps view (greet readTimeout) :=
    (timed_keeps reads).bind fun length => note_keeps notes _
  have proof : Keeps view (demandSecret secret readTimeout) :=
    (timed_keeps reads).bind (checkSecret_keeps secret)
  have limit : Keeps view (learnLimit readTimeout) :=
    (timed_keeps reads).bind requestedLimit_keeps
  exact greeting.bind fun _ => proof.bind fun _ => limit

theorem identify_keeps (secret : Secret) (readTimeout : Nat) :
    Keeps Conversation.sink (identify secret readTimeout) :=
  identify_keeps_of (fun _ _ _ => rfl) (fun _ _ => rfl) secret readTimeout

theorem greet_hears (readTimeout : Nat) :
    Hears heardIn (greet readTimeout) fun _ bytes =>
      ∃ hello : List UInt8, hello.length < 65536 ∧ bytes = Wire.frame hello := by
  refine ((timed_hears fun _ => Wire.skipString_hears).bind fun length =>
    note_hears .debug ("Client hello: " ++ toString length ++ " bytes")).mono ?_
  rintro _ bytes ⟨length, _, _, rfl, hello, rfl⟩
  rwa [List.append_nil]

theorem demandSecret_hears (secret : Secret) (readTimeout : Nat) :
    Hears heardIn (demandSecret secret readTimeout) fun _ bytes => bytes = secret.bytes := by
  refine ((timed_hears fun _ => Wire.readBytes_hears Secret.length .earlyEnd).bind
    (checkSecret_hears secret)).mono ?_
  rintro _ bytes ⟨candidate, _, _, rfl, ⟨rfl, _⟩, rfl, right⟩
  rw [List.append_nil, right]

theorem learnLimit_hears (readTimeout : Nat) :
    Hears heardIn (learnLimit readTimeout) fun _ bytes =>
      ∃ milliseconds : Int32, 0 ≤ milliseconds.toInt ∧ bytes = Wire.encodeI32 milliseconds := by
  refine ((timed_hears fun _ => Wire.readI32_hears).bind requestedLimit_hears).mono ?_
  rintro _ bytes ⟨milliseconds, _, _, rfl, rfl, rfl, positive⟩
  exact ⟨milliseconds, positive, List.append_nil _⟩

theorem identify_hears (secret : Secret) (readTimeout : Nat) :
    Hears heardIn (identify secret readTimeout) fun _ bytes => Authenticates secret bytes := by
  refine ((greet_hears readTimeout).bind fun _ => (demandSecret_hears secret readTimeout).bind
    fun _ => learnLimit_hears readTimeout).mono ?_
  rintro limit bytes ⟨_, _, _, rfl, ⟨hello, fits, rfl⟩, _, _, _, rfl, rfl, milliseconds, positive,
    rfl⟩
  refine ⟨hello, milliseconds, fits, positive, ?_⟩
  rw [introduction, List.append_assoc]

/-- The conversation once a byte was accepted and its flush was asked for. -/
def delivered (time : Nat) (byte : UInt8) (talk : Conversation) : Conversation :=
  let asked := ask .write talk
  ask .flush { asked with now := time, sink := asked.sink.accept time [byte] }

theorem sink_ask {talk : Conversation} {plan : SinkPlan} (hs : talk.sink = .ofPlan plan)
    (request : SinkRequest) : (ask request talk).sink =
      ⟨plan, [], 0, 0, none, [⟨request, talk.source.chunks⟩]⟩ := by
  simp only [ask, hs]
  rfl

/-- The conversation once the flush was answered as well. -/
def flushed (time later : Nat) (byte : UInt8) (talk : Conversation) : Conversation :=
  let given := delivered time byte talk
  { given with now := later, sink := given.sink.markFlush }

theorem sink_delivered {talk : Conversation} {plan : SinkPlan} (hs : talk.sink = .ofPlan plan)
    (time : Nat) (byte : UInt8) : (delivered time byte talk).sink =
      ⟨plan, [⟨time, [byte]⟩], 1, 0, none,
        [⟨.flush, talk.source.chunks⟩, ⟨.write, talk.source.chunks⟩]⟩ := by
  simp only [delivered, ask, hs]
  rfl

theorem sink_flushed {talk : Conversation} {plan : SinkPlan} (hs : talk.sink = .ofPlan plan)
    (time later : Nat) (byte : UInt8) : (flushed time later byte talk).sink =
      ⟨plan, [⟨time, [byte]⟩], 1, 1, none,
        [⟨.flush, talk.source.chunks⟩, ⟨.write, talk.source.chunks⟩]⟩ := by
  simp only [flushed, sink_delivered hs, Sink.markFlush]

/-- A byte is not accepted, or accepted and not flushed, or accepted and flushed. -/
theorem sendByte_cases (step : Step) (byte : UInt8) (talk : Conversation) :
    (∃ halt time, sendByte step byte talk = (.error halt, { ask .write talk with now := time })) ∨
    (∃ halt time later,
      sendByte step byte talk = (.error halt, { delivered time byte talk with now := later })) ∨
    ∃ time later, sendByte step byte talk = (.ok (), flushed time later byte talk) := by
  unfold sendByte
  simp only
  split
  case h_1 => exact .inl ⟨_, talk.now, rfl⟩
  case h_2 time _ =>
    split
    · exact .inl ⟨_, time, rfl⟩
    · exact .inl ⟨_, time, rfl⟩
    · exact .inl ⟨_, time, rfl⟩
    · split
      · exact .inr (.inl ⟨_, time, _, rfl⟩)
      · exact .inr (.inl ⟨_, time, time, rfl⟩)
      · exact .inr (.inr ⟨time, _, rfl⟩)

theorem learnDestination_keeps_of
    (reads : ∀ talk now source, view { talk with now, source } = view talk)
    (pooling : Option Nat) : Keeps view (learnDestination pooling) :=
  (timed_keeps reads).bind fun _ => (timed_keeps reads).bind fun _ => Keeps.pure _

theorem learnDestination_keeps (pooling : Option Nat) :
    Keeps Conversation.sink (learnDestination pooling) :=
  learnDestination_keeps_of (fun _ _ _ => rfl) pooling

end Handshake

/-- What a handshake may ask of its sink and have it accept. -/
structure Reticent (secret : Secret) (result : Except HandshakeHalt Destination) (sink : Sink) :
    Prop where
  /-- Whatever was asked, exactly what authenticates the client had been taken by then. -/
  authenticated : ∀ call ∈ sink.calls, Authenticates secret (Chunk.join call.heard)
  asked : (sink.calls.map SinkCall.request).reverse <+: [.write, .flush]
  sent : sink.accepted = [] ∨ sink.accepted = [0]
  answered : ∀ destination, result = .ok destination →
    sink.accepted = [0] ∧ sink.calls.length = 2 ∧ sink.flushes = 1

variable {secret : Secret} {readTimeout : Nat}

theorem reticent_ofPlan (plan : SinkPlan) (halt : HandshakeHalt) :
    Reticent secret (.error halt) (.ofPlan plan) where
  authenticated := by
    intro call hc
    cases hc
  asked := List.nil_prefix
  sent := .inl rfl
  answered := by
    intro destination h
    cases h

theorem reticent_answer {talk : Conversation} {plan : SinkPlan} (pooling : Option Nat)
    (ha : Authenticates secret talk.source.taken) (hs : talk.sink = .ofPlan plan) :
    let ended := (Handshake.sendByte .status Status.ok.code >>= fun _ =>
      Handshake.learnDestination pooling) talk
    Reticent secret ended.1 ended.2.sink := by
  intro ended
  have authentic : Authenticates secret (Chunk.join talk.source.chunks) := ha
  rcases Handshake.sendByte_cases .status Status.ok.code talk with
    ⟨halt, time, he⟩ | ⟨halt, time, later, he⟩ | ⟨time, later, he⟩
  · have stop : ended = _ := bind_of_error he
    rw [stop]
    show Reticent secret _ (Handshake.ask .write talk).sink
    rw [Handshake.sink_ask hs]
    exact ⟨by simp [authentic], by simp, .inl rfl, by simp⟩
  · have stop : ended = _ := bind_of_error he
    rw [stop, Handshake.sink_delivered hs]
    exact ⟨by simp [authentic], by simp, .inr rfl, by simp⟩
  · have onwards : ended = _ := bind_of_ok he
    rw [onwards, Handshake.learnDestination_keeps, Handshake.sink_flushed hs]
    exact ⟨by simp [authentic], by simp, .inr rfl, fun _ _ => ⟨rfl, rfl, rfl⟩⟩

/-- Nothing is asked of the sink before the client is authenticated, and at most the status byte
is ever sent; a handshake that succeeds has sent and flushed it. -/
theorem authenticate_reticent (secret : Secret) (readTimeout start : Nat) (script : List Event)
    (plan : SinkPlan) (log : List LogLine) :
    let ended := authenticate secret readTimeout ⟨start, .ofScript script, .ofPlan plan, log⟩
    Reticent secret ended.1 ended.2.sink := by
  intro ended
  let talk : Conversation := ⟨start, .ofScript script, .ofPlan plan, log⟩
  obtain ⟨bytes, taken, authentic⟩ := Handshake.identify_hears secret readTimeout talk
  have kept := Handshake.identify_keeps secret readTimeout talk
  rcases hi : Handshake.identify secret readTimeout talk with ⟨halt | pooling, after⟩
  all_goals rw [hi] at taken authentic kept
  · have stop : ended = (.error halt, after) := bind_of_error hi
    rw [stop, kept]
    exact reticent_ofPlan plan halt
  · have later : ended = (Handshake.sendByte .status Status.ok.code >>= fun _ =>
        Handshake.learnDestination pooling) after := bind_of_ok hi
    have heard : after.source.taken = bytes := taken
    rw [later]
    exact reticent_answer pooling (heard ▸ authentic pooling rfl) kept

end TunnelServer
