import TunnelServer.Proofs.Handshake.Acceptance
import TunnelServer.Proofs.Handshake.Passage

/-!
# The timetable of the handshake

Whatever a client says begins a row of fields, and these pass one after another: each field has its
own limit, counted from the end of the one before, and nothing but the arrival of its last byte ends
it in time. The limit for the destination is the one that the client asked for.
-/

namespace TunnelServer

open Source (Brings Handed readyAt)

/-- A sink that takes a byte at once. -/
structure SinkPlan.Prompt (plan : SinkPlan) : Prop extends plan.Welcomes where
  atOnce : ∀ now, plan.takesAt now = now

/-- The fields of an introduction, which all have the server's limit. -/
def introducing (readTimeout : Nat) (hello : List UInt8) (secret : Secret) (milliseconds : Int32) :
    List Awaited :=
  [⟨.hello, some readTimeout, Wire.frame hello⟩, ⟨.secret, some readTimeout, secret.bytes⟩,
    ⟨.timeout, some readTimeout, Wire.encodeI32 milliseconds⟩]

/-- The fields of a destination, which have the limit that the client asked for. -/
def naming (limit : Option Nat) (destination : Destination) : List Awaited :=
  [⟨.destination, limit, Wire.frame (Utf8.encode destination.host)⟩,
    ⟨.destination, limit, Wire.encodeU16 destination.port⟩]

/-- The fields that a server waits for, and what it makes of them. -/
inductive Utterance (secret : Secret) (readTimeout : Nat) :
    List Awaited → Except HandshakeHalt Destination → Prop where
  | wrongSecret {hello candidate : List UInt8} (fits : hello.length < 65536)
      (whole : candidate.length = Secret.length) (wrong : candidate ≠ secret.bytes) :
      Utterance secret readTimeout
        [⟨.hello, some readTimeout, Wire.frame hello⟩, ⟨.secret, some readTimeout, candidate⟩]
        (.error (.failed .badSecret))
  | negativeTimeout {hello : List UInt8} {milliseconds : Int32} (fits : hello.length < 65536)
      (negative : milliseconds.toInt < 0) :
      Utterance secret readTimeout (introducing readTimeout hello secret milliseconds)
        (.error (.failed (.protocol .timeout (.negativeTimeout milliseconds))))
  | noText {hello host : List UInt8} {milliseconds : Int32} (fits : hello.length < 65536)
      (positive : 0 ≤ milliseconds.toInt) (fits' : host.length < 65536)
      (ill : ∀ text, host ≠ Utf8.encode text) :
      Utterance secret readTimeout
        (introducing readTimeout hello secret milliseconds ++
          [⟨.destination, Handshake.pooling milliseconds, Wire.frame host⟩])
        (.error (.failed (.protocol .destination .invalidUtf8)))
  | named {hello : List UInt8} {milliseconds : Int32} {destination : Destination}
      (fits : hello.length < 65536) (positive : 0 ≤ milliseconds.toInt)
      (fits' : (Utf8.encode destination.host).length < 65536) :
      Utterance secret readTimeout
        (introducing readTimeout hello secret milliseconds ++
          naming (Handshake.pooling milliseconds) destination)
        (.ok destination)

namespace Wire

theorem exists_begun (wanted : Nat) (bytes : List UInt8) :
    ∃ front rest, front.length = wanted ∧ bytes <+: front ++ rest := by
  rcases exists_split wanted bytes with short | ⟨front, rest, rfl, whole⟩
  · refine ⟨bytes ++ List.replicate (wanted - bytes.length) 0, [], ?_, ?_⟩
    · rw [List.length_append, List.length_replicate]
      omega
    · rw [List.append_assoc]
      exact List.prefix_append ..
  · exact ⟨front, rest, whole, List.prefix_rfl⟩

theorem exists_begun_frame (bytes : List UInt8) :
    ∃ body rest, body.length < 65536 ∧ bytes <+: frame body ++ rest := by
  obtain ⟨number, later, hn, begun⟩ := exists_begun 2 bytes
  obtain ⟨body, rest, hb, begun'⟩ := exists_begun (decodeU16 number).toNat later
  have fits : body.length < 65536 := by
    rw [hb]
    exact (decodeU16 number).toNat_lt
  refine ⟨body, rest, fits, ?_⟩
  have framed : frame body = number ++ body := by
    rw [← encodeU16_decodeU16 hn, frame, hb, encodeU16]
  rw [framed, List.append_assoc]
  exact begun.trans ((List.prefix_append_right_inj number).mpr begun')

end Wire

/-- Whatever the client says, it begins with fields that the server waits for. -/
theorem exists_utterance (secret : Secret) (readTimeout : Nat) (bytes : List UInt8) :
    ∃ fields judged more, Utterance secret readTimeout fields judged ∧
      bytes <+: Awaited.join fields ++ more := by
  have nothing : bytes <+: Awaited.join [] ++ bytes := List.prefix_rfl
  obtain ⟨hello, later, fits, begun⟩ := Wire.exists_begun_frame bytes
  have greeted := Awaited.begun nothing ⟨.hello, some readTimeout, _⟩ begun
  obtain ⟨candidate, later, whole, begun⟩ := Wire.exists_begun Secret.length later
  have tried := Awaited.begun greeted ⟨.secret, some readTimeout, _⟩ begun
  -- the server waits for no more than it takes to refuse what was said
  by_cases right : candidate = secret.bytes
  · subst right
    obtain ⟨number, later, hn, begun⟩ := Wire.exists_begun 4 later
    rw [← Wire.encodeI32_decodeI32 hn] at begun
    have introduced := Awaited.begun tried ⟨.timeout, some readTimeout, _⟩ begun
    by_cases negative : (Wire.decodeI32 number).toInt < 0
    · exact ⟨_, _, later, .negativeTimeout fits negative, introduced⟩
    · have positive := Int.not_lt.mp negative
      let limit := Handshake.pooling (Wire.decodeI32 number)
      obtain ⟨host, later, fits', begun⟩ := Wire.exists_begun_frame later
      have placed := Awaited.begun introduced ⟨.destination, limit, _⟩ begun
      by_cases ill : ∀ text, host ≠ Utf8.encode text
      · exact ⟨_, _, later, .noText fits positive fits' ill, placed⟩
      · obtain ⟨name, rfl⟩ : ∃ text, host = Utf8.encode text := by simpa using ill
        obtain ⟨port, later, hp, begun⟩ := Wire.exists_begun 2 later
        rw [← Wire.encodeU16_decodeU16 hp] at begun
        have whole := Awaited.begun placed ⟨.destination, limit, _⟩ begun
        exact ⟨_, .ok ⟨name, Wire.decodeU16 port⟩, later, .named fits positive fits', whole⟩
  · exact ⟨_, _, later, .wrongSecret fits whole right, tried⟩

namespace Handshake

variable {secret : Secret} {readTimeout : Nat} {hello candidate : List UInt8}
  {milliseconds : Int32}

theorem identify_awaits_wrong (fits : hello.length < 65536)
    (whole : candidate.length = Secret.length) (wrong : candidate ≠ secret.bytes) :
    Awaits (identify secret readTimeout)
      [⟨.hello, some readTimeout, Wire.frame hello⟩, ⟨.secret, some readTimeout, candidate⟩]
      (.error (.failed .badSecret)) := by
  have proof := demandSecret_awaits secret readTimeout whole
  rw [if_neg wrong] at proof
  exact (greet_awaits readTimeout fits).bind (proof.bind_error _)

theorem identify_awaits {limit : Except HandshakeHalt (Option Nat)} (secret : Secret)
    (fits : hello.length < 65536)
    (hl : Awaits (learnLimit readTimeout)
      [⟨.timeout, some readTimeout, Wire.encodeI32 milliseconds⟩] limit) :
    Awaits (identify secret readTimeout) (introducing readTimeout hello secret milliseconds)
      limit := by
  have proof := demandSecret_awaits secret readTimeout secret.length_bytes
  rw [if_pos rfl] at proof
  exact (greet_awaits readTimeout fits).bind (proof.bind hl)

theorem answer_passes {tail : List Event} {heard rest more : List UInt8} {before : Source}
    {talk : Conversation} {plan : SinkPlan} {limit : Option Nat} {fields : List Awaited}
    {judged : Except HandshakeHalt Destination} (prompt : plan.Prompt)
    (hs : talk.sink = .ofPlan plan) (hd : Awaits (learnDestination limit) fields judged)
    (handed : Handed tail heard rest talk.now before talk.source)
    (agree : rest <+: Awaited.join fields ++ more) :
    ∃ failure, Passes tail heard rest before talk.now fields judged failure
      ((sendByte .status Status.ok.code >>= fun _ => learnDestination limit) talk) := by
  obtain ⟨time, said⟩ := sendByte_welcomed prompt.toWelcomes hs .status Status.ok.code
  rw [prompt.atOnce] at said
  rw [bind_of_ok said]
  exact hd tail heard rest more before (flushed time talk.now Status.ok.code talk) handed agree

end Handshake

variable {secret : Secret} {readTimeout start : Nat} {script tail : List Event} {plan : SinkPlan}
  {bytes more : List UInt8} {fields : List Awaited}
  {judged : Except HandshakeHalt Destination}

/-- The fields of an utterance pass, and what they say is the answer if all of them do. -/
theorem authenticate_passes (start : Nat) (log : List LogLine) (prompt : plan.Prompt)
    (brings : Brings tail script bytes) (utterance : Utterance secret readTimeout fields judged)
    (agree : bytes <+: Awaited.join fields ++ more) :
    ∃ failure, Handshake.Passes tail [] bytes (.ofScript script) start fields judged failure
      (authenticate secret readTimeout ⟨start, .ofScript script, .ofPlan plan, log⟩) := by
  let talk : Conversation := ⟨start, .ofScript script, .ofPlan plan, log⟩
  have handed : Handed tail [] bytes talk.now (.ofScript script) talk.source :=
    .refl start brings
  have answered {hello : List UInt8} {milliseconds : Int32} {named : List Awaited}
      (fits : hello.length < 65536) (positive : 0 ≤ milliseconds.toInt)
      (hd : Handshake.Awaits (Handshake.learnDestination (Handshake.pooling milliseconds)) named
        judged)
      (agree : bytes <+:
        Awaited.join (introducing readTimeout hello secret milliseconds ++ named) ++ more) :
      ∃ failure, Handshake.Passes tail [] bytes (.ofScript script) start
        (introducing readTimeout hello secret milliseconds ++ named) judged failure
        (authenticate secret readTimeout talk) := by
    have known := Handshake.identify_awaits secret fits
      (Handshake.learnLimit_awaits readTimeout positive)
    rw [Awaited.join_append, List.append_assoc] at agree
    obtain ⟨failure, passed⟩ := known tail [] bytes _ _ talk handed agree
    apply passed.bind
    rintro - left rfl handed'
    rw [List.prefix_append_right_inj] at agree
    have kept := Handshake.identify_keeps secret readTimeout talk
    exact Handshake.answer_passes prompt kept hd handed' agree
  cases utterance with
  | wrongSecret fits whole wrong =>
    exact (Handshake.identify_awaits_wrong fits whole wrong).bind_error _ tail [] bytes more _ talk
      handed agree
  | negativeTimeout fits negative =>
    have refused := Handshake.identify_awaits secret fits
      (Handshake.learnLimit_awaits_negative readTimeout negative)
    exact refused.bind_error _ tail [] bytes more _ talk handed agree
  | noText fits positive fits' ill =>
    exact answered fits positive (Handshake.learnDestination_awaits_host _ fits' ill) agree
  | named fits positive fits' =>
    exact answered fits positive (Handshake.learnDestination_awaits _ _ fits') agree

theorem Passage.unlimited {destination : Destination} {time heard count : Nat}
    {fields : List Awaited}
    (introduced : Passage tail bytes script start count fields none time heard)
    (whole : heard + (Awaited.join (naming none destination)).length ≤ bytes.length) :
    Passage tail bytes script start count (fields ++ naming none destination) none
      (max time (readyAt 0 (heard + (Awaited.join (naming none destination)).length) script))
      (heard + (Awaited.join (naming none destination)).length) := by
  apply introduced.trans
  have host : heard + (Wire.frame (Utf8.encode destination.host)).length ≤ bytes.length := by
    simp only [naming, Awaited.join_cons, List.length_append] at whole
    omega
  have size : heard + (Awaited.join (naming none destination)).length =
      heard + (Wire.frame (Utf8.encode destination.host)).length +
        (Wire.encodeU16 destination.port).length := by
    simp [naming, Nat.add_assoc]
  rw [size] at whole ⊢
  have later : readyAt 0 (heard + (Wire.frame (Utf8.encode destination.host)).length) script ≤
      readyAt 0 (heard + (Wire.frame (Utf8.encode destination.host)).length +
        (Wire.encodeU16 destination.port).length) script :=
    Source.readyAt_mono (Nat.le_add_right ..)
  rw [← Nat.max_eq_right later, ← Nat.max_assoc]
  apply Passage.inTime host
  · intro most no
    cases no
  apply Passage.inTime whole
  · intro most no
    cases no
  · exact .done

/-- Every handshake follows the timetable of the fields that its client begins, so one that succeeds
takes no more than the limits of its five fields. Whoever asks for no limit may take any time for
the destination. -/
theorem authenticate_timetable (secret : Secret) (readTimeout start : Nat) (log : List LogLine)
    (prompt : plan.Prompt) (brings : Brings tail script bytes) :
    let ended := authenticate secret readTimeout ⟨start, .ofScript script, .ofPlan plan, log⟩
    (∃ fields judged more, Utterance secret readTimeout fields judged ∧
      bytes <+: Awaited.join fields ++ more) ∧
    (∀ fields judged more, Utterance secret readTimeout fields judged →
      bytes <+: Awaited.join fields ++ more →
      ∃ failure heard, Passage tail bytes script start 0 fields failure ended.2.now heard ∧
        ended.1 = failure.elim judged .error ∧ ended.2.source.taken = bytes.take heard) ∧
    (∀ destination, ended.1 = .ok destination → ∃ hello milliseconds, hello.length < 65536 ∧
      0 ≤ milliseconds.toInt ∧
      ended.2.source.taken = Awaited.join (introducing readTimeout hello secret milliseconds ++
        naming (Handshake.pooling milliseconds) destination) ∧
      ∀ most ∈ Handshake.pooling milliseconds,
        ended.2.now ≤ start + 3 * readTimeout + 2 * most) ∧
    ∀ hello destination more time heard, hello.length < 65536 →
      (Utf8.encode destination.host).length < 65536 →
      bytes = Awaited.join (introducing readTimeout hello secret 0 ++ naming none destination) ++
        more →
      Passage tail bytes script start 0 (introducing readTimeout hello secret 0) none time heard →
      ended.1 = .ok destination ∧ ended.2.now = max time (readyAt 0
        (Awaited.join (introducing readTimeout hello secret 0 ++
          naming none destination)).length script) := by
  intro ended
  have passed (fields : List Awaited) (judged : Except HandshakeHalt Destination)
      (more : List UInt8) (utterance : Utterance secret readTimeout fields judged)
      (agree : bytes <+: Awaited.join fields ++ more) :=
    authenticate_passes start log prompt brings utterance agree
  refine ⟨exists_utterance secret readTimeout bytes, ?_, ?_, ?_⟩
  · intro fields judged more utterance agree
    obtain ⟨failure, passed⟩ := passed fields judged more utterance agree
    obtain ⟨heard, passage, taken⟩ := passed.passage
    exact ⟨failure, heard, passage, passed.result, taken⟩
  · intro destination known
    obtain ⟨fields, judged, more, utterance, agree⟩ := exists_utterance secret readTimeout bytes
    obtain ⟨failure, passed⟩ := passed fields judged more utterance agree
    obtain ⟨heard, passage, -⟩ := passed.passage
    have result := passed.result.symm.trans known
    cases failure with
    | some halt => cases result
    | none =>
      obtain ⟨left, -, handed⟩ := passed.handed rfl
      cases utterance with
      | @named hello milliseconds _ fits positive fits' =>
        cases result
        refine ⟨hello, milliseconds, fits, positive, handed.taken, ?_⟩
        intro most limited
        replace limited : Handshake.pooling milliseconds = some most := limited
        rw [limited] at passage
        have within : ended.2.now ≤ start + (readTimeout + (readTimeout + (readTimeout +
            (most + (most + 0))))) := passage.time_le (by simp [introducing, naming])
        omega
      | wrongSecret | negativeTimeout | noText => cases result
  · intro hello destination more time heard fits fits' whole introduced
    have utterance : Utterance secret readTimeout
        (introducing readTimeout hello secret 0 ++ naming none destination) (.ok destination) :=
      .named fits (Int.le_refl 0) fits'
    obtain ⟨failure, passed⟩ := passed _ _ more utterance (whole ▸ List.prefix_rfl)
    obtain ⟨heard', passage, -⟩ := passed.passage
    have enough : (Awaited.join (introducing readTimeout hello secret 0 ++
        naming none destination)).length ≤ bytes.length := by
      rw [whole, List.length_append]
      omega
    have size := introduced.heard_eq
    rw [Nat.zero_add] at size
    rw [Awaited.join_append, List.length_append, ← size] at enough ⊢
    have room : 0 + (Awaited.join (introducing readTimeout hello secret 0 ++
        naming none destination)).length ≤ bytes.length := by
      rwa [Nat.zero_add, Awaited.join_append, List.length_append, ← size]
    obtain ⟨rfl, clock, -⟩ :=
      (introduced.unlimited enough).unique passage rfl room room fun _ _ => rfl
    exact ⟨passed.result, clock⟩

theorem unrestricted_prompt : SinkPlan.unrestricted.Prompt where
  sound := by
    intro fault h
    cases h
  room := by decide
  moves := by decide
  portion := by decide
  flush := ⟨0, rfl⟩
  atOnce := Nat.max_zero

/-- A destination that comes long after an introduction. -/
def longSilence : List Event :=
  [⟨4, .data (Awaited.join (introducing 10 [] sevens 0))⟩,
    ⟨1000000, .data (Awaited.join (naming none ⟨"a", 443⟩))⟩]

theorem authenticate_timetable_longSilence :
    let ended := authenticate sevens 10 ⟨0, .ofScript longSilence, .ofPlan .unrestricted, []⟩
    ended.1 = .ok ⟨"a", 443⟩ ∧ ended.2.now = 1000000 := by
  let said := Awaited.join (introducing 10 [] sevens 0 ++ naming none ⟨"a", 443⟩)
  have brings : Brings [] longSilence said := .piece (.piece (.done rfl))
  have introduced : Passage [] said longSilence 0 0 (introducing 10 [] sevens 0) none 4 70 := by
    apply Passage.inTime (by decide) (by decide)
    apply Passage.inTime (by decide) (by decide)
    apply Passage.inTime (by decide) (by decide)
    exact .done
  exact (authenticate_timetable sevens 10 0 [] unrestricted_prompt brings).2.2.2 [] ⟨"a", 443⟩ [] 4
    70 (by decide) (by decide) rfl introduced

/-- The end of the stream is not waited out: a greeting that is cut short fails at once. -/
theorem end_not_waited_out : ¬ ∀ (secret : Secret) (readTimeout start : Nat)
    (script tail : List Event) (bytes : List UInt8) (plan : SinkPlan) (log : List LogLine),
    plan.Prompt → Brings tail script bytes → bytes.length < 2 →
    let ended := authenticate secret readTimeout ⟨start, .ofScript script, .ofPlan plan, log⟩
    ended.1 = .error (.failed (.timeout .hello)) ∧ ended.2.now = start + readTimeout := by
  intro claimed
  have waits := claimed sevens 1000 0 [⟨0, .endOfStream⟩] [⟨0, .endOfStream⟩] [] .unrestricted []
    unrestricted_prompt (.done rfl) (by decide)
  exact absurd waits.2 (by decide)

end TunnelServer
