import TunnelServer.Proofs.Handshake.Acceptance
import TunnelServer.Proofs.Handshake.Passage

/-!
# A wrong guess reveals nothing

What a server does with a wrong secret follows from when the greeting and the guess arrive, and from
how long the greeting is. Neither the secret nor any other byte has a part in it.
-/

namespace TunnelServer

open Source (Brings Handed readyAt)

/-- The fields of a guess. -/
def guessing (readTimeout : Nat) (hello candidate : List UInt8) : List Awaited :=
  [⟨.hello, some readTimeout, Wire.frame hello⟩, ⟨.secret, some readTimeout, candidate⟩]

/-- The bytes that have come by a moment are the first ones. -/
theorem Source.countP_readyAt {script : List Event} {heard size moment : Nat} (least : heard ≤ size)
    (came : readyAt 0 heard script ≤ moment)
    (missing : heard < size → moment < readyAt 0 (heard + 1) script) :
    (List.range size).countP (fun place => readyAt 0 (place + 1) script ≤ moment) = heard := by
  obtain ⟨more, rfl⟩ := Nat.exists_eq_add_of_le least
  have there : ∀ place ∈ List.range heard, readyAt 0 (place + 1) script ≤ moment := by
    intro place hp
    exact Nat.le_trans (Source.readyAt_mono (List.mem_range.mp hp)) came
  have later : ∀ place ∈ List.range more, ¬ readyAt 0 (heard + place + 1) script ≤ moment := by
    intro place hp
    have never := missing (Nat.lt_add_of_pos_right (Nat.zero_lt_of_lt (List.mem_range.mp hp)))
    have sooner : readyAt 0 (heard + 1) script ≤ readyAt 0 (heard + place + 1) script :=
      Source.readyAt_mono (by omega)
    omega
  rw [List.range_add, List.countP_append, List.countP_map,
    List.countP_eq_length.mpr (by simpa using there),
    List.countP_eq_zero.mpr (by simpa using later), List.length_range, Nat.add_zero]

namespace Passage

variable {tail script : List Event} {bytes : List UInt8} {now count time heard : Nat}
  {fields : List Awaited} {failure : Option HandshakeHalt}

theorem inTime_or_late {step : Step} {most : Nat} {word : List UInt8}
    (h : Passage tail bytes script now count (⟨step, some most, word⟩ :: fields) failure time heard)
    (enough : count + word.length ≤ bytes.length) :
    readyAt 0 (count + word.length) script ≤ now + most ∧
        Passage tail bytes script (max now (readyAt 0 (count + word.length) script))
          (count + word.length) fields failure time heard ∨
      now + most < readyAt 0 (count + word.length) script ∧
        failure = some (.failed (.timeout step)) ∧ time = now + most ∧
        heard < count + word.length := by
  cases h with
  | inTime _ soon onwards => exact .inl ⟨soon most rfl, onwards⟩
  | late limited part _ _ missing =>
    obtain rfl := Option.some.inj limited
    exact .inr ⟨(lt_of_missing missing part enough).2, rfl, rfl, part⟩
  | interrupted _ _ short => exact absurd enough (Nat.not_le.mpr short)
  | parked unlimited => cases unlimited

theorem heard_eq_countP (h : Passage tail bytes script now count fields failure time heard)
    (enough : count + (Awaited.join fields).length ≤ bytes.length)
    (begun : readyAt 0 count script ≤ now) :
    heard = (List.range (count + (Awaited.join fields).length)).countP
      fun place => readyAt 0 (place + 1) script ≤ time := by
  induction h with
  | done => exact (Source.countP_readyAt (Nat.le_refl _) begun fun less => by simp at less).symm
  | inTime whole soon onwards ih =>
    rw [Awaited.join_cons, List.length_append, ← Nat.add_assoc] at enough ⊢
    exact ih enough (Nat.le_max_right ..)
  | late limited part brought came missing =>
    rw [Awaited.join_cons, List.length_append] at enough ⊢
    symm
    apply Source.countP_readyAt ?_ came
    · intro less
      exact (lt_of_missing missing less enough).1
    · omega
  | interrupted stops reports short =>
    rw [Awaited.join_cons, List.length_append] at enough
    omega
  | parked unlimited silent short =>
    rw [Awaited.join_cons, List.length_append] at enough
    omega

theorem lt_of_stop {field : Awaited} {halt : HandshakeHalt}
    (h : Passage tail bytes script now count [field] (some halt) time heard) :
    heard < count + field.bytes.length := by
  cases h with
  | inTime _ _ onwards => cases onwards
  | late _ part => exact part
  | interrupted _ _ short => exact short
  | parked _ _ short => exact short

theorem readyAt_le (h : Passage tail bytes script now count fields none time heard)
    (came : readyAt 0 count script ≤ now) : readyAt 0 heard script ≤ time := by
  generalize ho : (none : Option HandshakeHalt) = open' at h
  induction h with
  | done => exact came
  | inTime whole soon onwards ih => exact ih (Nat.le_max_right ..) ho
  | late | interrupted | parked => cases ho

theorem count_le (h : Passage tail bytes script now count fields failure time heard)
    (there : count ≤ bytes.length) (came : readyAt 0 count script ≤ now) : count ≤ heard := by
  induction h with
  | done => exact Nat.le_refl _
  | inTime whole soon onwards ih =>
    have later := ih whole (Nat.le_max_right ..)
    omega
  | @late now count most heard _ _ _ _ _ _ missing =>
    rcases Nat.lt_or_ge heard count with less | enough
    · have sooner : readyAt 0 (heard + 1) script ≤ readyAt 0 count script :=
        Source.readyAt_mono less
      omega
    · exact enough
  | interrupted => exact there
  | parked => exact there

theorem heard_le (h : Passage tail bytes script now count fields failure time heard)
    (there : count ≤ bytes.length) : heard ≤ bytes.length := by
  induction h with
  | done => exact there
  | inTime whole soon onwards ih => exact ih whole
  | late _ _ brought => exact brought
  | interrupted => exact Nat.le_refl _
  | parked => exact Nat.le_refl _

end Passage

namespace Handshake

variable {tail : List Event} {hello candidate heard rest more : List UInt8} {before : Source}
  {talk : Conversation} {secret : Secret}

theorem greet_passes (readTimeout : Nat) (fits : hello.length < 65536)
    (handed : Handed tail heard rest talk.now before talk.source)
    (agree : rest <+: Wire.frame hello ++ more) :
    ∃ failure, Passes tail heard rest before talk.now
        [⟨.hello, some readTimeout, Wire.frame hello⟩] (.ok ()) failure (greet readTimeout talk) ∧
      (greet readTimeout talk).2.log =
        talk.log ++ failure.elim [greeted hello] fun _ => [] := by
  obtain ⟨failure, passed⟩ := timed_awaits .hello (some readTimeout)
    (fun _ => Wire.skipString_waits fits) tail heard rest more before talk handed (by simpa)
  let waited := (timed .hello (some readTimeout) Wire.skipString talk).2
  refine ⟨failure, ?_⟩
  cases failure with
  | some halt =>
    have stop : greet readTimeout talk = (.error halt, waited) :=
      bind_of_error (Prod.ext passed.result rfl)
    rw [stop]
    exact ⟨⟨rfl, passed.passage, passed.handed⟩, (List.append_nil _).symm⟩
  | none =>
    have onwards : greet readTimeout talk =
        (.ok (), { waited with log := talk.log ++ [greeted hello] }) :=
      bind_of_ok (Prod.ext passed.result rfl)
    rw [onwards]
    exact ⟨⟨rfl, passed.passage, passed.handed⟩, rfl⟩

theorem demandSecret_keeps_log (secret : Secret) (readTimeout : Nat) :
    Keeps Conversation.log (demandSecret secret readTimeout) :=
  (timed_keeps fun _ _ _ => rfl).bind (checkSecret_keeps secret)

/-- How a wrong guess is received: the passage of its fields decides about everything. -/
theorem identify_guess (readTimeout : Nat) (fits : hello.length < 65536)
    (whole : candidate.length = Secret.length) (wrong : candidate ≠ secret.bytes)
    (handed : Handed tail [] (Wire.frame hello ++ (candidate ++ rest)) talk.now talk.source
      talk.source) :
    ∃ failure count ended, identify secret readTimeout talk =
        (.error (failure.getD (.failed .badSecret)), ended) ∧
      Passage tail (Wire.frame hello ++ (candidate ++ rest)) talk.source.script talk.now 0
        (guessing readTimeout hello candidate) failure ended.now count ∧
      ended.source.taken =
        talk.source.taken ++ (Wire.frame hello ++ (candidate ++ rest)).take count ∧
      ended.log = talk.log ++
        if (Wire.frame hello).length ≤ count then [greeted hello] else [] := by
  obtain ⟨failure, greeting, noted⟩ := greet_passes readTimeout fits handed List.prefix_rfl
  obtain ⟨count, passage, taken⟩ := greeting.passage
  cases failure with
  | some halt =>
    have stop : identify secret readTimeout talk = (.error halt, (greet readTimeout talk).2) :=
      bind_of_error (Prod.ext greeting.result rfl)
    have part : count < (Wire.frame hello).length := by simpa using passage.lt_of_stop
    refine ⟨some halt, count, _, stop, passage.stop _, taken, ?_⟩
    rw [if_neg (Nat.not_le.mpr part)]
    exact noted
  | none =>
    let known := (greet readTimeout talk).2
    obtain ⟨left, split, handed'⟩ := greeting.handed rfl
    rw [Awaited.join_cons, Awaited.join_nil, List.append_nil] at split handed'
    obtain rfl : candidate ++ rest = left := List.append_cancel_left split
    have proof := demandSecret_awaits secret readTimeout whole
    rw [if_neg wrong] at proof
    have agree : candidate ++ rest <+:
        Awaited.join [⟨.secret, some readTimeout, candidate⟩] ++ rest := by simp
    obtain ⟨failure, proving⟩ := proof tail _ (candidate ++ rest) rest _ known handed' agree
    obtain ⟨count', passage', taken'⟩ := proving.passage
    have here : count = (Wire.frame hello).length := by simpa using passage.heard_eq
    subst here
    have came : readyAt 0 (Wire.frame hello).length talk.source.script ≤ known.now := by
      apply passage.readyAt_le
      rw [List.length_nil, Source.readyAt_zero]
      exact Nat.zero_le _
    have later : (Wire.frame hello).length ≤ count' := by
      apply passage'.count_le ?_ came
      simp
    have refused : (demandSecret secret readTimeout known).1 =
        .error (failure.getD (.failed .badSecret)) := by
      rw [proving.result]
      cases failure <;> rfl
    have stop : identify secret readTimeout talk =
        (.error (failure.getD (.failed .badSecret)), (demandSecret secret readTimeout known).2) :=
      (bind_of_ok (Prod.ext greeting.result rfl)).trans (bind_of_error (Prod.ext refused rfl))
    refine ⟨failure, count', _, stop, passage.trans passage', taken', ?_⟩
    rw [if_pos later, demandSecret_keeps_log]
    exact noted

end Handshake

/-- A client that sends a greeting and then the wrong secret, and anything after that. -/
structure Guesses (script : List Event) (secret : Secret) (hello candidate : List UInt8) :
    Prop where
  fits : hello.length < 65536
  whole : candidate.length = Secret.length
  wrong : candidate ≠ secret.bytes
  brings : ∃ tail rest, Brings tail script (Wire.frame hello ++ (candidate ++ rest))

theorem Wire.length_frame (body : List UInt8) : (frame body).length = 2 + body.length := by
  rw [frame, List.length_append, length_toBigEndian]

variable {script script' : List Event} {secret secret' : Secret}
  {hello hello' candidate candidate' : List UInt8}

/-- The error that a wrong guess ends with, and when, if the greeting and then the guess are there at
these times. Each of the two has the same limit, and the second is counted from the greeting. -/
def reception (readTimeout start greetingAt guessAt : Nat) : HandshakeError × Nat :=
  if start + readTimeout < greetingAt then (.timeout .hello, start + readTimeout)
  else if max start greetingAt + readTimeout < guessAt then
    (.timeout .secret, max start greetingAt + readTimeout)
  else (.badSecret, max start guessAt)

theorem Passage.receives {tail : List Event} {bytes : List UInt8} {failure : Option HandshakeHalt}
    {readTimeout start time count : Nat}
    (h : Passage tail bytes script start 0 (guessing readTimeout hello candidate) failure time count)
    (enough : 2 + hello.length + candidate.length ≤ bytes.length) :
    let greetingAt := readyAt 0 (2 + hello.length) script
    let guessAt := readyAt 0 (2 + hello.length + candidate.length) script
    let received := reception readTimeout start greetingAt guessAt
    failure.getD (.failed .badSecret) = .failed received.1 ∧ time = received.2 ∧
      (2 + hello.length ≤ count ↔ greetingAt ≤ start + readTimeout) := by
  intro greetingAt guessAt received
  have order : greetingAt ≤ guessAt := Source.readyAt_mono (Nat.le_add_right ..)
  have size : 0 + (Wire.frame hello).length = 2 + hello.length := by
    rw [Nat.zero_add, Wire.length_frame]
  obtain ⟨soon, proving⟩ | ⟨late, rfl, rfl, part⟩ := h.inTime_or_late (by omega)
  · rw [size] at soon proving
    obtain ⟨soon', proved⟩ | ⟨late', rfl, rfl, part'⟩ := proving.inTime_or_late enough
    · cases proved
      have verdict : received = (.badSecret, max start guessAt) :=
        (if_neg (Nat.not_lt.mpr soon)).trans (if_neg (Nat.not_lt.mpr soon'))
      rw [verdict, Nat.max_assoc, Nat.max_eq_right order]
      exact ⟨rfl, rfl, iff_of_true (Nat.le_add_right ..) soon⟩
    · have verdict : received = (.timeout .secret, max start greetingAt + readTimeout) :=
        (if_neg (Nat.not_lt.mpr soon)).trans (if_pos late')
      have before := proving.count_le (by omega) (Nat.le_max_right ..)
      rw [verdict]
      exact ⟨rfl, rfl, iff_of_true before soon⟩
  · rw [size] at late part
    have verdict : received = (.timeout .hello, start + readTimeout) := if_pos late
    rw [verdict]
    exact ⟨rfl, rfl, iff_of_false (Nat.not_le.mpr part) (Nat.not_le.mpr late)⟩

/-- What a server does with a wrong guess, by when the bytes of the guess come. -/
theorem Guesses.received (h : Guesses script secret hello candidate) (readTimeout start : Nat)
    (plan : SinkPlan) (log : List LogLine) :
    let ended := authenticate secret readTimeout ⟨start, .ofScript script, .ofPlan plan, log⟩
    let greetingAt := readyAt 0 (2 + hello.length) script
    let guessAt := readyAt 0 (2 + hello.length + 64) script
    let received := reception readTimeout start greetingAt guessAt
    ended.1 = .error (.failed received.1) ∧ ended.2.now = received.2 ∧
      ended.2.source.consumed = (List.range (2 + hello.length + 64)).countP
        (fun place => readyAt 0 (place + 1) script ≤ received.2) ∧
      ended.2.log = log ++ (if greetingAt ≤ start + readTimeout then [greeted hello] else []) ∧
      ended.2.sink = .ofPlan plan := by
  intro ended greetingAt guessAt received
  let talk : Conversation := ⟨start, .ofScript script, .ofPlan plan, log⟩
  obtain ⟨tail, rest, brings⟩ := h.brings
  have handed : Handed tail [] (Wire.frame hello ++ (candidate ++ rest)) talk.now talk.source
      talk.source := .refl start brings
  obtain ⟨failure, count, after, hi, passage, taken, noted⟩ :=
    Handshake.identify_guess readTimeout h.fits h.whole h.wrong handed
  have kept := Handshake.identify_keeps secret readTimeout talk
  have stop : ended = (.error (failure.getD (.failed .badSecret)), after) := bind_of_error hi
  have size : candidate.length = 64 := h.whole
  have enough : 2 + hello.length + candidate.length ≤
      (Wire.frame hello ++ (candidate ++ rest)).length := by
    simp only [List.length_append, Wire.length_frame]
    omega
  have word : (Awaited.join (guessing readTimeout hello candidate)).length =
      2 + hello.length + 64 := by
    simp [guessing, Wire.length_frame, size]
  obtain ⟨halt, clock, whole⟩ := passage.receives enough
  rw [size] at halt clock
  have heard := passage.heard_eq_countP (by omega) (by simp)
  rw [Nat.zero_add, word, clock] at heard
  have brought := passage.heard_le (Nat.zero_le _)
  rw [hi] at kept
  rw [stop]
  refine ⟨congrArg Except.error halt, clock, ?_, ?_, kept⟩
  · rw [Source.consumed, taken, Source.taken_ofScript, List.nil_append, List.length_take,
      Nat.min_eq_left brought]
    exact heard
  · simp only [noted, Wire.length_frame, whole]
    rfl

/-- A wrong guess is answered with `BadSecret` once it is there, or with a timeout at the limit of the
field that is late. Two wrong guesses whose bytes come at the same times are received in the same way,
by servers with any secrets: with the same answer at the same time, after as many bytes, with the same
lines in the log, and without a word to the client. -/
theorem guesses_indistinguishable (h : Guesses script secret hello candidate)
    (h' : Guesses script' secret' hello' candidate') (lengths : hello'.length = hello.length)
    (together : ∀ place ≤ 2 + hello.length + 64, readyAt 0 place script' = readyAt 0 place script)
    (readTimeout start : Nat) (plan plan' : SinkPlan) (log : List LogLine) :
    let ended := authenticate secret readTimeout ⟨start, .ofScript script, .ofPlan plan, log⟩
    let ended' := authenticate secret' readTimeout ⟨start, .ofScript script', .ofPlan plan', log⟩
    let greetingAt := readyAt 0 (2 + hello.length) script
    let guessAt := readyAt 0 (2 + hello.length + 64) script
    let received := reception readTimeout start greetingAt guessAt
    (ended.1 = .error (.failed received.1) ∧ ended.2.now = received.2 ∧
      ended.2.source.consumed = (List.range (2 + hello.length + 64)).countP
        (fun place => readyAt 0 (place + 1) script ≤ received.2) ∧
      ended.2.log = log ++ if greetingAt ≤ start + readTimeout then [greeted hello] else []) ∧
    ended'.1 = ended.1 ∧ ended'.2.now = ended.2.now ∧
    ended'.2.source.consumed = ended.2.source.consumed ∧ ended'.2.log = ended.2.log ∧
    ended.2.sink = .ofPlan plan ∧ ended'.2.sink = .ofPlan plan' := by
  intro ended ended' greetingAt guessAt received
  obtain ⟨result, clock, consumed, noted, quiet⟩ := h.received readTimeout start plan log
  obtain ⟨result', clock', consumed', noted', quiet'⟩ := h'.received readTimeout start plan' log
  -- what is said of the second guess is said of the first one's times
  simp only [lengths, together (2 + hello.length) (by omega),
    together (2 + hello.length + 64) (Nat.le_refl _)] at result' clock' consumed' noted'
  refine ⟨⟨result, clock, consumed, noted⟩, result'.trans result.symm, clock'.trans clock.symm, ?_,
    ?_, quiet, quiet'⟩
  · rw [consumed, consumed']
    apply List.countP_congr
    intro place hp
    rw [together (place + 1) (List.mem_range.mp hp)]
  · rw [noted, noted', greeted, greeted, lengths]

def eights : Secret := ⟨List.replicate 64 8, rfl⟩

/-- All in one piece. -/
def wildGuess : List Event := [⟨3, .data (Wire.frame [1] ++ List.replicate 64 0)⟩]

/-- In pieces, and with more behind it; only the last byte is wrong. -/
def closeGuess : List Event :=
  [⟨3, .data (Wire.frame [2])⟩, ⟨1, .data (List.replicate 63 8)⟩, ⟨0, .data [9, 9, 9]⟩,
    ⟨5, .endOfStream⟩]

theorem guesses_indistinguishable_close :
    let ended readTimeout := authenticate sevens readTimeout
      ⟨0, .ofScript wildGuess, .ofPlan .slow, []⟩
    let ended' readTimeout := authenticate eights readTimeout
      ⟨0, .ofScript closeGuess, .ofPlan .unrestricted, []⟩
    ((ended 3).1 = .error (.failed .badSecret) ∧ (ended 3).2.now = 3 ∧
      (ended 3).2.source.consumed = 67 ∧ (ended 3).2.log = [greeted [1]]) ∧
    ((ended 2).1 = .error (.failed (.timeout .hello)) ∧ (ended 2).2.now = 2 ∧
      (ended 2).2.source.consumed = 0 ∧ (ended 2).2.log = []) ∧
    ∀ readTimeout, (ended' readTimeout).1 = (ended readTimeout).1 ∧
      (ended' readTimeout).2.now = (ended readTimeout).2.now ∧
      (ended' readTimeout).2.log = (ended readTimeout).2.log := by
  have h : Guesses wildGuess sevens [1] (List.replicate 64 0) :=
    ⟨by decide, by decide, by decide, [], [], .piece (.done rfl)⟩
  have h' : Guesses closeGuess eights [2] (List.replicate 63 8 ++ [9]) :=
    ⟨by decide, by decide, by decide, _, [9, 9], .piece (.piece (.piece (.done rfl)))⟩
  have both := guesses_indistinguishable h h' rfl (by decide)
  refine ⟨(both 3 0 .slow .unrestricted []).1, (both 2 0 .slow .unrestricted []).1, ?_⟩
  intro readTimeout
  obtain ⟨-, answer, clock, -, lines, -⟩ := both readTimeout 0 .slow .unrestricted []
  exact ⟨answer, clock, lines⟩

end TunnelServer
