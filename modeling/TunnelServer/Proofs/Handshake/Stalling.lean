import TunnelServer.Proofs.Handshake.Encoding
import TunnelServer.Proofs.Handshake.Outcome

/-!
# Where a handshake can stall

Whatever the client does, a field is over when its limit is. The status byte has no limit: how long
it takes is up to the writer, so a handshake lasts as long as its limits and the writer allow.
-/

namespace TunnelServer

namespace Source

variable {limit now : Nat}

theorem giveUp_expires (script : List Event) (hn : now ≤ limit) :
    (giveUp (some limit) now script).time ≤ limit ∧
      (giveUp (some limit) now script).outcome ≠ .parked := by
  simp [giveUp, hn]

theorem gather_expires (wanted : Nat) (script : List Event) (hn : now ≤ limit) :
    (gather (some limit) wanted now script).time ≤ limit ∧
      (gather (some limit) wanted now script).outcome ≠ .parked := by
  generalize hd : some limit = deadline
  fun_induction gather deadline wanted now script with
  | case1 => exact ⟨hn, by simp⟩
  | case2 | case3 =>
    subst hd
    exact giveUp_expires _ hn
  | case4 wanted now event rest time soon | case5 wanted now event rest time soon =>
    subst hd
    simp at soon
    exact ⟨soon, by simp⟩
  | case6 wanted now event rest time soon bytes _ hl after ih =>
    subst hd
    simp at soon
    exact ih soon
  | case7 wanted now event rest time soon =>
    subst hd
    simp at soon
    exact ⟨soon, by simp⟩

end Source

namespace Wire

variable {α β : Type} {limit : Nat}

/-- A part that is begun by the deadline is over by then. -/
def Expires (limit : Nat) (part : FieldReader α) : Prop :=
  ∀ reader, reader.now ≤ limit → (part reader).2.now ≤ limit ∧ (part reader).1 ≠ .error .parked

theorem Expires.bind {first : FieldReader α} {next : α → FieldReader β} (hf : Expires limit first)
    (hn : ∀ value, Expires limit (next value)) : Expires limit (first >>= next) := by
  intro reader begun
  obtain ⟨soon, ends⟩ := hf reader begun
  rcases hs : first reader with ⟨halt | value, after⟩
  · rw [hs] at soon ends
    rw [bind_of_error hs]
    refine ⟨soon, ?_⟩
    intro parked
    cases parked
    exact ends rfl
  · rw [hs] at soon
    rw [bind_of_ok hs]
    exact hn value after soon

theorem Expires.pure (value : α) : Expires limit (Pure.pure value : FieldReader α) := by
  intro reader begun
  refine ⟨begun, ?_⟩
  intro parked
  cases parked

theorem readBytes_expires (limit wanted : Nat) (short : IoError) :
    Expires limit (readBytes (some limit) wanted short) := by
  intro reader begun
  obtain ⟨soon, ends⟩ := Source.gather_expires wanted reader.source.script begun
  refine ⟨soon, ?_⟩
  intro parked
  simp only [readBytes, conclude, Source.takeExactly] at parked
  split at parked
  case h_5 silent => exact ends silent
  all_goals cases parked

theorem readU16_expires (limit : Nat) : Expires limit (readU16 (some limit)) :=
  (readBytes_expires limit 2 _).bind fun _ => .pure _

theorem readI32_expires (limit : Nat) : Expires limit (readI32 (some limit)) :=
  (readBytes_expires limit 4 _).bind fun _ => .pure _

theorem skipString_expires (limit : Nat) : Expires limit (skipString (some limit)) := by
  rw [skipString_eq]
  exact (readU16_expires limit).bind fun length =>
    (readBytes_expires limit length.toNat _).bind fun _ => .pure _

theorem readString_expires (limit : Nat) : Expires limit (readString (some limit)) := by
  refine (readU16_expires limit).bind fun length =>
    (readBytes_expires limit length.toNat _).bind fun body => ?_
  cases Utf8.decode? body with
  | some text => exact .pure text
  | none =>
    intro reader begun
    refine ⟨begun, ?_⟩
    intro parked
    cases parked

end Wire

namespace Handshake

variable {α β : Type} {bound more : Nat}

/-- A part takes no more than this time, and ends. -/
def Lasts (bound : Nat) (part : Dialogue α) : Prop :=
  ∀ talk, (part talk).2.now ≤ talk.now + bound ∧ (part talk).1 ≠ .error .parked

theorem Lasts.bind {first : Dialogue α} {next : α → Dialogue β} (hf : Lasts bound first)
    (hn : ∀ value, Lasts more (next value)) : Lasts (bound + more) (first >>= next) := by
  intro talk
  obtain ⟨soon, ends⟩ := hf talk
  rcases hs : first talk with ⟨halt | value, after⟩
  · rw [hs] at soon ends
    rw [bind_of_error hs]
    refine ⟨Nat.le_trans soon (by omega), ?_⟩
    intro parked
    cases parked
    exact ends rfl
  · rw [hs] at soon
    rw [bind_of_ok hs]
    obtain ⟨later, ends'⟩ := hn value after
    refine ⟨?_, ends'⟩
    rw [← Nat.add_assoc]
    exact Nat.le_trans later (Nat.add_le_add_right soon more)

theorem Lasts.pure (value : α) : Lasts 0 (Pure.pure value : Dialogue α) := by
  intro talk
  refine ⟨Nat.le_refl _, ?_⟩
  intro parked
  cases parked

theorem Lasts.throw {halt : HandshakeHalt} (failed : halt ≠ .parked) :
    Lasts 0 (MonadExcept.throw halt : Dialogue α) := by
  intro talk
  refine ⟨Nat.le_refl _, ?_⟩
  intro parked
  cases parked
  exact failed rfl

theorem note_lasts (level : Level) (message : String) : Lasts 0 (note level message) := by
  intro talk
  refine ⟨Nat.le_refl _, ?_⟩
  intro parked
  cases parked

theorem timed_lasts {field : Option Nat → FieldReader α} (step : Step) (most : Nat)
    (hf : ∀ limit, Wire.Expires limit (field (some limit))) :
    Lasts most (timed step (some most) field) := by
  intro talk
  obtain ⟨soon, ends⟩ := hf (talk.now + most) ⟨talk.now, talk.source⟩ (Nat.le_add_right ..)
  refine ⟨soon, ?_⟩
  intro parked
  rcases hr : field (some (talk.now + most)) ⟨talk.now, talk.source⟩ with ⟨halt | value, reader⟩
  · rw [hr] at ends
    simp only [timed, Option.map_some, hr] at parked
    cases halt with
    | parked => exact ends rfl
    | failed | expired => cases parked
  · simp only [timed, Option.map_some, hr] at parked
    cases parked

theorem checkSecret_lasts (secret : Secret) (candidate : List UInt8) :
    Lasts 0 (checkSecret secret candidate) := by
  unfold checkSecret
  split
  · exact .pure ()
  · exact .throw (by simp)

theorem requestedLimit_lasts (milliseconds : Int32) : Lasts 0 (requestedLimit milliseconds) := by
  unfold requestedLimit
  split
  · exact .throw (by simp)
  · split <;> exact .pure _

/-- The time for an introduction is limited, whatever the client does. -/
theorem identify_lasts (secret : Secret) (readTimeout : Nat) :
    Lasts (3 * readTimeout) (identify secret readTimeout) := by
  have greeting : Lasts (readTimeout + 0) (greet readTimeout) :=
    (timed_lasts .hello readTimeout Wire.skipString_expires).bind fun _ => note_lasts _ _
  have proof : Lasts (readTimeout + 0) (demandSecret secret readTimeout) :=
    (timed_lasts .secret readTimeout fun limit => Wire.readBytes_expires limit _ _).bind
      (checkSecret_lasts secret)
  have limit : Lasts (readTimeout + 0) (learnLimit readTimeout) :=
    (timed_lasts .timeout readTimeout Wire.readI32_expires).bind requestedLimit_lasts
  have whole := greeting.bind fun _ => proof.bind fun _ => limit
  have sum : 3 * readTimeout = readTimeout + 0 + (readTimeout + 0 + (readTimeout + 0)) := by omega
  rw [sum]
  exact whole

theorem learnDestination_lasts (most : Nat) :
    Lasts (2 * most) (learnDestination (some most)) := by
  have host := timed_lasts .destination most Wire.readString_expires
  have port := timed_lasts .destination most Wire.readU16_expires
  have whole : Lasts (most + (most + 0)) (learnDestination (some most)) :=
    host.bind fun _ => port.bind fun _ => .pure _
  rwa [Nat.two_mul]

end Handshake

theorem introduction_append_inj {hello hello' rest rest' : List UInt8} {secret : Secret}
    {milliseconds milliseconds' : Int32} (fits : hello.length < 65536)
    (fits' : hello'.length < 65536)
    (he : introduction hello secret milliseconds ++ rest =
      introduction hello' secret milliseconds' ++ rest') :
    hello = hello' ∧ milliseconds = milliseconds' ∧ rest = rest' := by
  simp only [introduction, List.append_assoc] at he
  obtain ⟨hellos, others⟩ := Wire.frame_append_inj fits fits' he
  exact ⟨hellos, Wire.encodeI32_append_inj (List.append_cancel_left others)⟩

/-- A sink that answers within a time. -/
def SinkPlan.AnswersWithin (plan : SinkPlan) (most : Nat) : Prop :=
  ∀ now, ∃ time ≤ now + most, plan.answersAt now = some time

namespace Handshake

variable {talk : Conversation} {plan : SinkPlan}

/-- The status byte takes as long as the writer takes to answer, and if it never does, for ever. -/
theorem sendByte_answered (hs : talk.sink = .ofPlan plan) (step : Step) (byte : UInt8) :
    ((sendByte step byte talk).1 = .error .parked ↔ plan.answersAt talk.now = none) ∧
      ∀ told ∈ plan.answersAt talk.now, (sendByte step byte talk).2.now = told := by
  cases hr : plan.respondsAt talk.now with
  | none =>
    have never : readyTime (ask .write talk) = none := (readyTime_eq_respondsAt hs).trans hr
    simp [sendByte, never, SinkPlan.answersAt, hr]
  | some time =>
    simp only [sendByte_of_respondsAt hs hr, SinkPlan.answersAt, hr, Option.bind_some]
    cases ho : (Sink.ofPlan plan).offer time 1 with
    | pending release => exact absurd ho (SinkPlan.not_pending_of_respondsAt hr release)
    | fault kind => simp
    | accepts count =>
      cases count with
      | zero => simp
      | succ count => cases plan.flush.nth 0 <;> simp [Completion.due?, flushed]

theorem answer_lasts (hs : talk.sink = .ofPlan plan) (limit : Nat) :
    let ended := (sendByte .status Status.ok.code >>= fun _ => learnDestination (some limit)) talk
    (ended.1 = .error .parked → plan.answersAt talk.now = none) ∧
    (ended.1 ≠ .error .parked →
      ∃ told ∈ plan.answersAt talk.now, ended.2.now ≤ told + 2 * limit) := by
  intro ended
  obtain ⟨stuck, clock⟩ := sendByte_answered hs .status Status.ok.code
  cases ha : plan.answersAt talk.now with
  | none =>
    have stop : ended = (.error .parked, (sendByte .status Status.ok.code talk).2) :=
      bind_of_error (Prod.ext (stuck.mpr ha) rfl)
    rw [stop]
    exact ⟨fun _ => rfl, fun ends => (ends rfl).elim⟩
  | some told =>
    replace clock := clock told ha
    rw [ha] at stuck
    rcases hb : sendByte .status Status.ok.code talk with ⟨halt | value, after⟩
    all_goals rw [hb] at stuck clock
    · have stop : ended = (.error halt, after) := bind_of_error hb
      rw [stop]
      refine ⟨fun parked => stuck.mp (by cases parked; rfl), fun _ => ⟨told, rfl, ?_⟩⟩
      exact Nat.le_trans (Nat.le_of_eq clock) (Nat.le_add_right ..)
    · have onwards : ended = learnDestination (some limit) after := bind_of_ok hb
      obtain ⟨soon, ends⟩ := learnDestination_lasts limit after
      rw [clock] at soon
      rw [onwards]
      exact ⟨fun parked => (ends parked).elim, fun _ => ⟨told, rfl, soon⟩⟩

theorem requestedLimit_gives (milliseconds : Int32) :
    Hears heardIn (requestedLimit milliseconds) fun limit bytes =>
      bytes = [] ∧ 0 ≤ milliseconds.toInt ∧ limit = pooling milliseconds := by
  unfold requestedLimit pooling
  split
  case isTrue => exact Hears.throw _
  case isFalse h =>
    have positive : 0 ≤ milliseconds.toInt := Int.not_lt.mp h
    split
    all_goals
      apply (Hears.pure _).mono
      rintro _ _ ⟨rfl, rfl⟩
      exact ⟨rfl, positive, rfl⟩

theorem identify_gives (secret : Secret) (readTimeout : Nat) :
    Hears heardIn (identify secret readTimeout) fun limit bytes => ∃ hello milliseconds,
      hello.length < 65536 ∧ 0 ≤ milliseconds.toInt ∧ limit = pooling milliseconds ∧
        bytes = introduction hello secret milliseconds := by
  have learning : Hears heardIn (learnLimit readTimeout) fun limit bytes =>
      ∃ milliseconds : Int32, 0 ≤ milliseconds.toInt ∧ limit = pooling milliseconds ∧
        bytes = Wire.encodeI32 milliseconds := by
    apply ((timed_hears fun _ => Wire.readI32_hears).bind requestedLimit_gives).mono
    rintro _ _ ⟨milliseconds, _, _, rfl, rfl, rfl, positive, rfl⟩
    exact ⟨milliseconds, positive, rfl, List.append_nil _⟩
  apply ((greet_hears readTimeout).bind fun _ => (demandSecret_hears secret readTimeout).bind
    fun _ => learning).mono
  rintro _ _ ⟨_, _, _, rfl, ⟨hello, fits, rfl⟩, _, _, _, rfl, rfl, milliseconds, positive, rfl, rfl⟩
  refine ⟨hello, milliseconds, fits, positive, rfl, ?_⟩
  rw [introduction, List.append_assoc]

end Handshake

/-- Whether and when a handshake is over is decided by the answer to the status byte, if it gets so
far. -/
theorem authenticate_over (secret : Secret) (readTimeout start most : Nat) (script : List Event)
    (plan : SinkPlan) (log : List LogLine) :
    let ended := authenticate secret readTimeout ⟨start, .ofScript script, .ofPlan plan, log⟩
    (∀ hello milliseconds, hello.length < 65536 →
      introduction hello secret milliseconds <+: ended.2.source.taken →
      milliseconds.toInt ≠ 0 ∧ milliseconds.toInt ≤ most) →
    (ended.1 = .error .parked →
      ∃ known ≤ start + 3 * readTimeout, plan.answersAt known = none) ∧
    (ended.1 ≠ .error .parked → ended.2.now ≤ start + 3 * readTimeout ∨
      ∃ known ≤ start + 3 * readTimeout, ∃ told ∈ plan.answersAt known,
        ended.2.now ≤ told + 2 * most) := by
  intro ended asked
  let talk : Conversation := ⟨start, .ofScript script, .ofPlan plan, log⟩
  obtain ⟨soon, ends⟩ := Handshake.identify_lasts secret readTimeout talk
  obtain ⟨bytes, taken, gives⟩ := Handshake.identify_gives secret readTimeout talk
  have kept := Handshake.identify_keeps secret readTimeout talk
  rcases hi : Handshake.identify secret readTimeout talk with ⟨halt | limit, after⟩
  all_goals rw [hi] at soon ends taken gives kept
  · have stop : ended = (.error halt, after) := bind_of_error hi
    rw [stop]
    refine ⟨?_, fun _ => .inl soon⟩
    intro parked
    cases parked
    exact (ends rfl).elim
  · obtain ⟨hello, milliseconds, fits, positive, rfl, rfl⟩ := gives limit rfl
    have later : ended = (Handshake.sendByte .status Status.ok.code >>= fun _ =>
        Handshake.learnDestination (Handshake.pooling milliseconds)) after := bind_of_ok hi
    obtain ⟨more, taken', -⟩ := ((Handshake.sendByte_hears .status Status.ok.code).bind fun _ =>
      Handshake.learnDestination_hears (Handshake.pooling milliseconds)) after
    have said : ended.2.source.taken = introduction hello secret milliseconds ++ more := by
      rw [later]
      exact taken'.trans (congrArg (· ++ more) taken)
    obtain ⟨limited, small⟩ := asked hello milliseconds fits (said ▸ List.prefix_append ..)
    rw [Handshake.pooling, if_neg limited] at later
    obtain ⟨stuck, bounded⟩ := Handshake.answer_lasts kept milliseconds.toInt.toNat
    rw [later]
    refine ⟨?_, ?_⟩
    · intro parked
      exact ⟨after.now, soon, stuck parked⟩
    · intro ends
      obtain ⟨told, ht, late⟩ := bounded ends
      refine .inr ⟨after.now, soon, told, ht, Nat.le_trans late ?_⟩
      omega

/-- A handshake lasts as long as its limits, and as long as the writer takes for the status byte,
which has none: if the writer never answers, the handshake never ends. -/
theorem authenticate_lasts (secret : Secret) (readTimeout start most : Nat) (script : List Event)
    (plan : SinkPlan) (log : List LogLine) :
    let ended := authenticate secret readTimeout ⟨start, .ofScript script, .ofPlan plan, log⟩
    (∀ hello milliseconds, hello.length < 65536 →
      introduction hello secret milliseconds <+: ended.2.source.taken →
      milliseconds.toInt ≠ 0 ∧ milliseconds.toInt ≤ most) →
    (ended.1 = .error .parked →
      ∃ known ≤ start + 3 * readTimeout, plan.answersAt known = none) ∧
    (ended.1 ≠ .error .parked → ended.2.now ≤ start + 3 * readTimeout ∨
      ∃ known ≤ start + 3 * readTimeout, ∃ told ∈ plan.answersAt known,
        ended.2.now ≤ told + 2 * most) ∧
    (plan.AnswersWithin readTimeout → ended.1 ≠ .error .parked ∧
      ended.2.now ≤ start + 4 * readTimeout + 2 * most) := by
  intro ended asked
  have bounds := authenticate_over secret readTimeout start most script plan log asked
  have bounded : ended.1 ≠ .error .parked → ended.2.now ≤ start + 3 * readTimeout ∨
      ∃ known ≤ start + 3 * readTimeout, ∃ told ∈ plan.answersAt known,
        ended.2.now ≤ told + 2 * most := bounds.2
  refine ⟨bounds.1, bounded, ?_⟩
  intro within
  have never : ended.1 ≠ .error .parked := by
    intro parked
    obtain ⟨known, -, silent⟩ := bounds.1 parked
    obtain ⟨time, -, answered⟩ := within known
    rw [silent] at answered
    cases answered
  refine ⟨never, ?_⟩
  rcases bounded never with early | ⟨known, hk, told, ht, late⟩
  · omega
  · obtain ⟨time, hl, answered⟩ := within known
    replace ht : plan.answersAt known = some told := ht
    rw [answered] at ht
    cases ht
    omega

/-- A sink that never answers. -/
def SinkPlan.mute : SinkPlan := { SinkPlan.unrestricted with stalls := [⟨0, none⟩] }

theorem authenticate_stalls :
    (authenticate sevens 1000 ⟨0, .ofScript [⟨0, .data (introduction [] sevens 5)⟩], .ofPlan .mute,
      []⟩).1 = .error .parked := by
  with_unfolding_all rfl

theorem slow_answersWithin : SinkPlan.slow.AnswersWithin 40 := by
  intro now
  have offer (time : Nat) : (Sink.ofPlan .slow).offer time 1 =
      if time < 25 then .pending (some 25) else .accepts 1 := rfl
  by_cases early : now < 25
  · refine ⟨40, Nat.le_add_left .., ?_⟩
    simp only [SinkPlan.answersAt, SinkPlan.respondsAt, offer, if_pos early]
    rfl
  · refine ⟨max now 40, by omega, ?_⟩
    simp only [SinkPlan.answersAt, SinkPlan.respondsAt, offer, if_neg early, Option.bind_some]
    rfl

theorem authenticate_lasts_slow :
    let ended := authenticate sevens 40
      ⟨0, .ofScript [⟨0, .data (introduction [] sevens 5)⟩], .ofPlan .slow, []⟩
    ended.1 ≠ .error .parked ∧ ended.2.now ≤ 0 + 4 * 40 + 2 * 5 := by
  have asked (hello : List UInt8) (milliseconds : Int32) (fits : hello.length < 65536)
      (said : introduction hello sevens milliseconds <+: introduction [] sevens 5) :
      milliseconds.toInt ≠ 0 ∧ milliseconds.toInt ≤ (5 : Nat) := by
    obtain ⟨rest, split⟩ := said
    rw [← List.append_nil (introduction [] sevens 5)] at split
    obtain ⟨-, rfl, -⟩ := introduction_append_inj fits (by decide) split
    decide
  have taken : (authenticate sevens 40 ⟨0, .ofScript [⟨0, .data (introduction [] sevens 5)⟩],
      .ofPlan .slow, []⟩).2.source.taken = introduction [] sevens 5 := by decide +kernel
  have lasts := authenticate_lasts sevens 40 0 5 [⟨0, .data (introduction [] sevens 5)⟩] .slow []
    fun hello milliseconds fits said => asked hello milliseconds fits (taken ▸ said)
  exact lasts.2.2 slow_answersWithin

end TunnelServer
