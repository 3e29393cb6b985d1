import TunnelServer.Proofs.Handshake.Guessing
import TunnelServer.Proofs.Handshake.Timetable

/-!
# Handshakes that are cut short

What a client says stops somewhere: the stream ends or fails there, or nothing more comes. If all
that came was in time, the server has taken all of it, and blames the field into which the next
byte would have fallen.
-/

namespace TunnelServer

open Source (Brings Handed readyAt)

/-- What becomes of a wait for a field within which a stream goes on with `tail`. -/
inductive Severed (step : Step) (limit : Option Nat) : List Event → HandshakeHalt → Prop where
  | ended {due : Nat} {later : List Event} {cause : IoError} (kind : cause.kind = .unexpectedEof) :
      Severed step limit (⟨due, .endOfStream⟩ :: later) (.failed (.protocol step (.io cause)))
  | faulted {due : Nat} {later : List Event} {kind : IoErrorKind} :
      Severed step limit (⟨due, .fault kind⟩ :: later)
        (.failed (.protocol step (.io (.ofKind kind))))
  | silent {most : Nat} (limited : limit = some most) :
      Severed step limit [] (.failed (.timeout step))
  | waiting (unlimited : limit = none) : Severed step limit [] .parked

/-- How much has to come in time where so many bytes come: these bytes and, if there is one, the
interruption behind them. -/
def Source.arrivals : List Event → Nat → Nat
  | [], count => count
  | _ :: _, count => count + 1

namespace Awaited

/-- The field into which a byte falls. -/
def at? : Nat → List Awaited → Option Awaited
  | _, [] => none
  | place, field :: fields =>
    if place < field.bytes.length then some field else at? (place - field.bytes.length) fields

/-- Fields that are waited for from a time on, when so many bytes have been heard, are not late:
each comes within its limit, counted from the end of the one before, as far as it comes at all. -/
def InTime (script : List Event) (arrivals : Nat) : Nat → Nat → List Awaited → Prop
  | _, _, [] => True
  | now, count, field :: fields =>
    (∀ most ∈ field.limit,
      readyAt 0 (min arrivals (count + field.bytes.length)) script ≤ now + most) ∧
      InTime script arrivals (max now (readyAt 0 (count + field.bytes.length) script))
        (count + field.bytes.length) fields

end Awaited

namespace Passage

variable {tail script : List Event} {bytes : List UInt8} {now count time heard : Nat}
  {fields : List Awaited} {failure : Option HandshakeHalt}

theorem all_heard {most size : Nat}
    (missing : (heard = bytes.length ∧ tail = []) ∨ now + most < readyAt 0 (heard + 1) script)
    (part : heard < size) (brought : heard ≤ bytes.length)
    (early : readyAt 0 (min (Source.arrivals tail bytes.length) size) script ≤ now + most) :
    heard = bytes.length ∧ tail = [] := by
  rcases missing with all | never
  · exact all
  · have fewer : ¬ heard + 1 ≤ min (Source.arrivals tail bytes.length) size := by
      intro more
      have sooner : readyAt 0 (heard + 1) script ≤
          readyAt 0 (min (Source.arrivals tail bytes.length) size) script :=
        Source.readyAt_mono more
      omega
    cases tail with
    | nil =>
      rw [Source.arrivals] at fewer
      exact ⟨by omega, rfl⟩
    | cons event later =>
      rw [Source.arrivals] at fewer
      omega

/-- Where nothing is late, all that came is heard, and the field that lacks a byte is blamed. -/
theorem severed (h : Passage tail bytes script now count fields failure time heard)
    (begun : count ≤ bytes.length)
    (short : bytes.length < count + (Awaited.join fields).length)
    (inTime : Awaited.InTime script (Source.arrivals tail bytes.length) now count fields) :
    heard = bytes.length ∧ ∃ field halt, failure = some halt ∧
      Awaited.at? (bytes.length - count) fields = some field ∧
      Severed field.step field.limit tail halt := by
  induction h with
  | done =>
    rw [Awaited.join_nil, List.length_nil] at short
    omega
  | @inTime now count time heard field fields failure enough soon onwards ih =>
    rw [Awaited.join_cons, List.length_append, ← Nat.add_assoc] at short
    obtain ⟨all, blamed, halt, failed, there, severed⟩ := ih enough short inTime.2
    have behind : ¬ bytes.length - count < field.bytes.length := by omega
    refine ⟨all, blamed, halt, failed, ?_, severed⟩
    rw [Awaited.at?, if_neg behind, Nat.sub_sub]
    exact there
  | @late now count most heard field fields limited part brought came missing =>
    obtain ⟨rfl, rfl⟩ := all_heard missing part brought (inTime.1 most limited)
    have here : bytes.length - count < field.bytes.length := by omega
    exact ⟨rfl, field, _, rfl, if_pos here, .silent limited⟩
  | @interrupted now count due arrival later cause field fields stops reports short' soon =>
    have here : bytes.length - count < field.bytes.length := by omega
    subst stops
    refine ⟨rfl, field, _, rfl, if_pos here, ?_⟩
    cases reports with
    | ended kind => exact .ended kind
    | fault => exact .faulted
  | @parked now count time field fields unlimited silent short' =>
    have here : bytes.length - count < field.bytes.length := by omega
    subst silent
    exact ⟨rfl, field, _, rfl, if_pos here, .waiting unlimited⟩

theorem complete (h : Passage tail bytes script now count fields failure time heard)
    (enough : count + (Awaited.join fields).length ≤ bytes.length)
    (inTime : Awaited.InTime script (Source.arrivals tail bytes.length) now count fields) :
    failure = none := by
  induction h with
  | done => rfl
  | inTime whole soon onwards ih =>
    rw [Awaited.join_cons, List.length_append, ← Nat.add_assoc] at enough
    exact ih enough inTime.2
  | late limited part brought came missing =>
    rw [Awaited.join_cons, List.length_append] at enough
    obtain ⟨rfl, -⟩ := all_heard missing part brought (inTime.1 _ limited)
    omega
  | interrupted stops reports short soon =>
    rw [Awaited.join_cons, List.length_append] at enough
    omega
  | parked unlimited silent short =>
    rw [Awaited.join_cons, List.length_append] at enough
    omega

theorem time_eq (h : Passage tail bytes script now count fields none time heard)
    (heardBy : readyAt 0 count script ≤ now) : time = max now (readyAt 0 heard script) := by
  generalize open_eq : (none : Option HandshakeHalt) = failure at h
  induction h with
  | done => omega
  | @inTime now count time heard field fields failure enough soon onwards ih =>
    have later : readyAt 0 (count + field.bytes.length) script ≤ readyAt 0 heard script := by
      apply Source.readyAt_mono
      have total := (open_eq ▸ onwards).heard_eq
      omega
    rw [ih (Nat.le_max_right ..) open_eq]
    omega
  | late | interrupted | parked => cases open_eq

end Passage

/-- The step that waits for a byte of what a client says whose greeting has so many bytes. -/
def stepOf (greeting place : Nat) : Step :=
  if place < 2 + greeting then .hello
  else if place < 2 + greeting + 64 then .secret
  else if place < 2 + greeting + 64 + 4 then .timeout
  else .destination

/-- What a client says that is accepted. -/
def transcript (hello : List UInt8) (secret : Secret) (milliseconds : Int32)
    (destination : Destination) : List UInt8 :=
  introduction hello secret milliseconds ++
    (Wire.frame (Utf8.encode destination.host) ++ Wire.encodeU16 destination.port)

variable {hello : List UInt8} {secret : Secret} {milliseconds : Int32} {destination : Destination}
  {readTimeout start cut : Nat} {limit : Option Nat} {tail script : List Event} {plan : SinkPlan}

theorem length_introduction (hello : List UInt8) (secret : Secret) (milliseconds : Int32) :
    (introduction hello secret milliseconds).length = 2 + hello.length + 64 + 4 := by
  simp [introduction, Wire.length_frame, secret.length_bytes]

theorem join_introducing (readTimeout : Nat) (hello : List UInt8) (secret : Secret)
    (milliseconds : Int32) : Awaited.join (introducing readTimeout hello secret milliseconds) =
      introduction hello secret milliseconds := by
  simp [introducing, introduction]

theorem join_naming (limit : Option Nat) (destination : Destination) :
    Awaited.join (naming limit destination) =
      Wire.frame (Utf8.encode destination.host) ++ Wire.encodeU16 destination.port := by
  simp [naming]

theorem at?_introducing (readTimeout : Nat) (hello : List UInt8) (secret : Secret)
    (milliseconds : Int32) {place : Nat} (h : place < 2 + hello.length + 64 + 4) :
    ∃ bytes, Awaited.at? place (introducing readTimeout hello secret milliseconds) =
      some ⟨stepOf hello.length place, some readTimeout, bytes⟩ := by
  simp only [introducing, Awaited.at?, stepOf, Wire.length_frame, secret.length_bytes,
    Wire.length_encodeI32]
  by_cases greeting : place < 2 + hello.length
  · exact ⟨_, by rw [if_pos greeting, if_pos greeting]⟩
  · by_cases proof : place < 2 + hello.length + 64
    · have here : place - (2 + hello.length) < 64 := by omega
      exact ⟨_, by rw [if_neg greeting, if_neg greeting, if_pos here, if_pos proof]⟩
    · have behind : ¬ place - (2 + hello.length) < 64 := by omega
      have here : place - (2 + hello.length) - 64 < 4 := by omega
      exact ⟨_, by rw [if_neg greeting, if_neg greeting, if_neg behind, if_neg proof, if_pos here,
        if_pos h]⟩

theorem at?_naming (limit : Option Nat) (destination : Destination) {place : Nat}
    (h : place < (Awaited.join (naming limit destination)).length) :
    ∃ bytes, Awaited.at? place (naming limit destination) =
      some ⟨.destination, limit, bytes⟩ := by
  rw [join_naming, List.length_append] at h
  simp only [naming, Awaited.at?]
  split
  · exact ⟨_, rfl⟩
  · rw [if_pos (by omega)]
    exact ⟨_, rfl⟩

/-- How a handshake ends that is cut short. -/
structure CutShort (step : Step) (limit : Option Nat) (tail : List Event) (heard sent : List UInt8)
    (ended : Except HandshakeHalt Destination × Conversation) : Prop where
  blamed : ∃ halt, ended.1 = .error halt ∧ Severed step limit tail halt
  taken : ended.2.source.taken = heard
  accepted : ended.2.sink.accepted = sent

theorem introduction_cut_short (log : List LogLine) (fits : hello.length < 65536)
    (positive : 0 ≤ milliseconds.toInt) (early : cut < 2 + hello.length + 64 + 4)
    (brings : Brings tail script ((introduction hello secret milliseconds).take cut))
    (inTime : Awaited.InTime script (Source.arrivals tail cut) start 0
      (introducing readTimeout hello secret milliseconds)) :
    CutShort (stepOf hello.length cut) (some readTimeout) tail
      ((introduction hello secret milliseconds).take cut) []
      (authenticate secret readTimeout ⟨start, .ofScript script, .ofPlan plan, log⟩) := by
  let talk : Conversation := ⟨start, .ofScript script, .ofPlan plan, log⟩
  have size : ((introduction hello secret milliseconds).take cut).length = cut := by
    rw [List.length_take, length_introduction]
    omega
  have known := Handshake.identify_awaits secret fits
    (Handshake.learnLimit_awaits readTimeout positive)
  have agree : (introduction hello secret milliseconds).take cut <+:
      Awaited.join (introducing readTimeout hello secret milliseconds) ++ [] := by
    rw [join_introducing, List.append_nil]
    exact List.take_prefix ..
  obtain ⟨failure, passed⟩ := known tail [] _ [] (.ofScript script) talk (.refl start brings) agree
  obtain ⟨count, passage, taken⟩ := passed.passage
  rw [List.nil_append] at passage taken
  obtain ⟨rfl, field, halt, rfl, there, severed⟩ := passage.severed (Nat.zero_le _)
    (by rw [size, join_introducing, length_introduction]; simpa using early)
    (by rw [size]; exact inTime)
  rw [size] at there taken
  obtain ⟨bytes, place⟩ := at?_introducing readTimeout hello secret milliseconds early
  obtain rfl := Option.some.inj (there.symm.trans place)
  have stop : authenticate secret readTimeout talk =
      (.error halt, (Handshake.identify secret readTimeout talk).2) :=
    bind_of_error (Prod.ext passed.result rfl)
  have kept : (Handshake.identify secret readTimeout talk).2.sink = .ofPlan plan :=
    Handshake.identify_keeps secret readTimeout talk
  rw [stop]
  refine ⟨⟨halt, rfl, severed⟩, ?_, ?_⟩
  · rw [taken, List.take_take, Nat.min_self]
    rfl
  · rw [kept, Sink.accepted_ofPlan]

/-- After an introduction that is not late the status byte is sent, and the destination is waited
for. -/
theorem introduction_answered {left : List UInt8} (log : List LogLine) (fits : hello.length < 65536)
    (positive : 0 ≤ milliseconds.toInt) (welcome : plan.Welcomes)
    (brings : Brings tail script (introduction hello secret milliseconds ++ left))
    (inTime : Awaited.InTime script
      (Source.arrivals tail (introduction hello secret milliseconds ++ left).length) start 0
      (introducing readTimeout hello secret milliseconds)) :
    ∃ talk : Conversation,
      talk.now = plan.takesAt
        (max start (readyAt 0 (introduction hello secret milliseconds).length script)) ∧
      Handed tail (introduction hello secret milliseconds) left talk.now (.ofScript script)
        talk.source ∧
      talk.sink.accepted = [0] ∧
      authenticate secret readTimeout ⟨start, .ofScript script, .ofPlan plan, log⟩ =
        Handshake.learnDestination (Handshake.pooling milliseconds) talk := by
  let talk : Conversation := ⟨start, .ofScript script, .ofPlan plan, log⟩
  have whole := join_introducing readTimeout hello secret milliseconds
  have known := Handshake.identify_awaits secret fits
    (Handshake.learnLimit_awaits readTimeout positive)
  have agree : introduction hello secret milliseconds ++ left <+:
      Awaited.join (introducing readTimeout hello secret milliseconds) ++ left :=
    whole ▸ List.prefix_rfl
  obtain ⟨failure, passed⟩ := known tail [] _ _ (.ofScript script) talk (.refl start brings) agree
  obtain ⟨count, passage, -⟩ := passed.passage
  rw [List.nil_append] at passage
  obtain rfl := passage.complete (by simp [whole]) inTime
  have clock := passage.time_eq (by simp)
  rw [passage.heard_eq, List.length_nil, Nat.zero_add, whole] at clock
  obtain ⟨left', split, handed⟩ := passed.handed rfl
  rw [List.nil_append, whole] at handed
  rw [whole] at split
  obtain rfl : left = left' := List.append_cancel_left split
  have kept : (Handshake.identify secret readTimeout talk).2.sink = .ofPlan plan :=
    Handshake.identify_keeps secret readTimeout talk
  obtain ⟨time, said⟩ := Handshake.sendByte_welcomed welcome kept .status Status.ok.code
  refine ⟨_, congrArg plan.takesAt clock, ?_, ?_,
    (bind_of_ok (Prod.ext passed.result rfl)).trans (bind_of_ok said)⟩
  · exact ⟨handed.taken, handed.brings, handed.resumes.mono (plan.le_takesAt _)⟩
  · rw [Handshake.sink_flushed kept]
    rfl

theorem destination_cut_short (log : List LogLine) (fits : hello.length < 65536)
    (positive : 0 ≤ milliseconds.toInt) (fits' : (Utf8.encode destination.host).length < 65536)
    (welcome : plan.Welcomes) (late : (introduction hello secret milliseconds).length ≤ cut)
    (short : cut < (transcript hello secret milliseconds destination).length)
    (brings : Brings tail script ((transcript hello secret milliseconds destination).take cut))
    (inTime : Awaited.InTime script (Source.arrivals tail cut) start 0
      (introducing readTimeout hello secret milliseconds))
    (inTime' : Awaited.InTime script (Source.arrivals tail cut)
      (plan.takesAt
        (max start (readyAt 0 (introduction hello secret milliseconds).length script)))
      (introduction hello secret milliseconds).length
      (naming (Handshake.pooling milliseconds) destination)) :
    CutShort .destination (Handshake.pooling milliseconds) tail
      ((transcript hello secret milliseconds destination).take cut) [0]
      (authenticate secret readTimeout ⟨start, .ofScript script, .ofPlan plan, log⟩) := by
  have size : ((transcript hello secret milliseconds destination).take cut).length = cut := by
    rw [List.length_take]
    omega
  have named := join_naming (Handshake.pooling milliseconds) destination
  obtain ⟨left, front, begun⟩ : ∃ left,
      (transcript hello secret milliseconds destination).take cut =
        introduction hello secret milliseconds ++ left ∧
      left <+: Awaited.join (naming (Handshake.pooling milliseconds) destination) ++ [] := by
    refine ⟨_, List.take_append.trans (congrArg (· ++ _) (List.take_of_length_le late)), ?_⟩
    rw [named, List.append_nil]
    exact List.take_prefix ..
  have whole : (transcript hello secret milliseconds destination).length =
      (introduction hello secret milliseconds).length +
        (Awaited.join (naming (Handshake.pooling milliseconds) destination)).length := by
    rw [transcript, named, List.length_append]
  rw [front] at brings size ⊢
  rw [whole] at short
  rw [← size] at inTime inTime' short
  obtain ⟨talk, clock, handed, accepted, onwards⟩ :=
    introduction_answered log fits positive welcome brings inTime
  obtain ⟨failure, passed⟩ := Handshake.learnDestination_awaits (Handshake.pooling milliseconds)
    destination.port fits' tail _ left [] (.ofScript script) talk handed begun
  obtain ⟨count, passage, taken⟩ := passed.passage
  rw [← clock] at inTime'
  have enough : (introduction hello secret milliseconds).length ≤
      (introduction hello secret milliseconds ++ left).length := by simp
  obtain ⟨rfl, field, halt, rfl, there, severed⟩ := passage.severed enough short inTime'
  obtain ⟨bytes, place⟩ := at?_naming (Handshake.pooling milliseconds) destination
    (Nat.sub_lt_left_of_lt_add enough short)
  obtain rfl := Option.some.inj (there.symm.trans place)
  rw [onwards]
  refine ⟨⟨halt, passed.result, severed⟩, ?_, ?_⟩
  · rw [taken, List.take_length]
    rfl
  · have kept : (Handshake.learnDestination (Handshake.pooling milliseconds) talk).2.sink =
        talk.sink := Handshake.learnDestination_keeps (Handshake.pooling milliseconds) talk
    rw [kept, accepted]

/-- A handshake that is cut short is blamed on the right step. What the client says would be
accepted, but only its first bytes come, in time and in whatever pieces, and then the stream ends
or fails, or nothing more comes. The server takes exactly these bytes, and fails at the step whose
field lacks the next one: for the end of the stream, with the fault, or at the limit of the field,
if it has one. The status byte was sent if the introduction had come. -/
theorem interrupted_handshake_blamed (readTimeout start : Nat) (log : List LogLine)
    (fits : hello.length ≤ 65535) (positive : 0 ≤ milliseconds.toInt)
    (fits' : (Utf8.encode destination.host).length ≤ 65535) (welcome : plan.Welcomes)
    (short : cut < (transcript hello secret milliseconds destination).length)
    (brings : Brings tail script ((transcript hello secret milliseconds destination).take cut))
    (inTime : Awaited.InTime script (Source.arrivals tail cut) start 0
      (introducing readTimeout hello secret milliseconds))
    (inTime' : (introduction hello secret milliseconds).length ≤ cut →
      Awaited.InTime script (Source.arrivals tail cut)
        (plan.takesAt
          (max start (readyAt 0 (introduction hello secret milliseconds).length script)))
        (introduction hello secret milliseconds).length
        (naming (Handshake.pooling milliseconds) destination)) :
    let ended := authenticate secret readTimeout ⟨start, .ofScript script, .ofPlan plan, log⟩
    ended.2.source.taken = (transcript hello secret milliseconds destination).take cut ∧
      (∃ halt, ended.1 = .error halt ∧ Severed (stepOf hello.length cut)
        (if cut < (introduction hello secret milliseconds).length then some readTimeout
        else Handshake.pooling milliseconds) tail halt) ∧
      ended.2.sink.accepted =
        if (introduction hello secret milliseconds).length ≤ cut then [0] else [] := by
  intro ended
  have size := length_introduction hello secret milliseconds
  by_cases early : cut < (introduction hello secret milliseconds).length
  · have front : (transcript hello secret milliseconds destination).take cut =
        (introduction hello secret milliseconds).take cut :=
      List.take_append_of_le_length (Nat.le_of_lt early)
    rw [front] at brings ⊢
    rw [if_pos early, if_neg (Nat.not_le.mpr early)]
    obtain ⟨blamed, taken, accepted⟩ : CutShort _ _ _ _ _ ended :=
      introduction_cut_short log (Nat.lt_succ_of_le fits) positive (size ▸ early) brings inTime
    exact ⟨taken, blamed, accepted⟩
  · have late : (introduction hello secret milliseconds).length ≤ cut := Nat.le_of_not_lt early
    have step : stepOf hello.length cut = .destination := by
      rw [stepOf, if_neg (by omega), if_neg (by omega), if_neg (by omega)]
    rw [if_neg early, if_pos late, step]
    obtain ⟨blamed, taken, accepted⟩ : CutShort _ _ _ _ _ ended :=
      destination_cut_short log (Nat.lt_succ_of_le fits) positive (Nat.lt_succ_of_le fits') welcome
        late short brings inTime (inTime' late)
    exact ⟨taken, blamed, accepted⟩

/-- All but the last four bytes of a transcript. -/
def abruptBytes : List UInt8 := (transcript [0xFF] sevens 40 ⟨"a", 443⟩).take 72

/-- The connection is lost within the length of the host. -/
def abrupt : List Event :=
  [⟨2, .data (abruptBytes.take 5)⟩, ⟨9, .data (abruptBytes.drop 5)⟩, ⟨50, .fault .connectionReset⟩]

theorem interrupted_handshake_blamed_abrupt :
    let ended := authenticate sevens 10 ⟨0, .ofScript abrupt, .ofPlan .slow, []⟩
    ended.1 = .error (.failed (.protocol .destination (.io (.ofKind .connectionReset)))) ∧
      ended.2.source.taken = abruptBytes ∧ ended.2.sink.accepted = [0] := by
  intro ended
  have pieces : Brings [⟨50, .fault .connectionReset⟩] abrupt
      (abruptBytes.take 5 ++ (abruptBytes.drop 5 ++ [])) := .piece (.piece (.done rfl))
  rw [List.append_nil, List.take_append_drop] at pieces
  obtain ⟨taken, ⟨halt, failed, severed⟩, accepted⟩ :=
    interrupted_handshake_blamed 10 0 [] (by decide) (by decide) (by decide) slow_welcomes
      (by decide) pieces ⟨by decide, by decide, by decide, trivial⟩
      (fun _ => ⟨by decide, by decide, trivial⟩)
  refine ⟨?_, taken, accepted⟩
  cases severed with
  | faulted => exact failed

end TunnelServer
