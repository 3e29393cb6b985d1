import TunnelServer.Proofs.Handshake.Reading
import TunnelServer.Proofs.Handshake.Silence
import TunnelServer.Proofs.Stream.FirstByte

/-!
# The handshake accepts its grammar

From bytes that are ready and then end, and with a sink that takes the status byte, the handshake
comes to the account that the grammar gives of these bytes, however they are divided into events.
-/

namespace TunnelServer

open Source (Offers)

namespace Handshake

variable {α β : Type} {used rest : List UInt8} {lines : List LogLine}

/-- A part takes the first of the bytes that are ready, logs these lines, and says nothing. -/
def Proceeds (part : Dialogue α) (used rest : List UInt8) (lines : List LogLine)
    (result : Except HandshakeHalt α) : Prop :=
  ∀ talk : Conversation, Offers talk.now talk.source.script (used ++ rest) →
    ∃ source, part talk = (result, ⟨talk.now, source, talk.sink, talk.log ++ lines⟩) ∧
      source.taken = talk.source.taken ++ used ∧ Offers talk.now source.script rest

theorem Proceeds.bind {first : Dialogue α} {next : α → Dialogue β} {value : α}
    {later : List UInt8} {more : List LogLine} {result : Except HandshakeHalt β}
    (hf : Proceeds first used (later ++ rest) lines (.ok value))
    (hn : Proceeds (next value) later rest more result) :
    Proceeds (first >>= next) (used ++ later) rest (lines ++ more) result := by
  intro talk ho
  rw [List.append_assoc] at ho
  obtain ⟨source, hr, ht, ho⟩ := hf talk ho
  obtain ⟨after, hr', ht', ho'⟩ := hn ⟨talk.now, source, talk.sink, talk.log ++ lines⟩ ho
  refine ⟨after, ?_, ?_, ho'⟩
  · rw [bind_of_ok hr, hr', List.append_assoc]
  · rw [ht', ht, List.append_assoc]

theorem Proceeds.bind_error {first : Dialogue α} {halt : HandshakeHalt}
    (hf : Proceeds first used rest lines (.error halt)) (next : α → Dialogue β) :
    Proceeds (first >>= next) used rest lines (.error halt) := by
  intro talk ho
  obtain ⟨source, hr, ht, ho⟩ := hf talk ho
  exact ⟨source, bind_of_error hr, ht, ho⟩

theorem Proceeds.throw (halt : HandshakeHalt) :
    Proceeds (MonadExcept.throw halt : Dialogue α) [] rest [] (.error halt) := by
  intro talk ho
  refine ⟨talk.source, ?_, (List.append_nil _).symm, ho⟩
  rw [List.append_nil]
  rfl

theorem Proceeds.judge {first : Dialogue α} {next : α → Dialogue β} {value : α}
    {result : Except HandshakeHalt β} (hf : Proceeds first used rest lines (.ok value))
    (hn : Proceeds (next value) [] rest [] result) :
    Proceeds (first >>= next) used rest lines result := by
  have whole : Proceeds (first >>= next) (used ++ []) rest (lines ++ []) result := hf.bind hn
  rwa [List.append_nil, List.append_nil] at whole

theorem Manages.proceeds {limit : Option Nat} {part : Dialogue α} {fields : List (List UInt8)}
    {result : Except HandshakeHalt α} (h : Manages limit part fields lines result)
    (rest : List UInt8) : Proceeds part fields.flatten rest lines result := by
  intro talk ho
  obtain ⟨due, tail, brings, ready⟩ := Source.offers_iff.mp ho
  have there := Source.readyAt_eq_of_ready ready
  have early : Source.Punctual limit talk.now talk.source.script 0 fields :=
    Source.punctual_of_readyAt_eq (by rw [Nat.zero_add, there])
  obtain ⟨source, hr, handed⟩ := h talk _ rest brings early
  rw [there] at hr handed
  exact ⟨source, hr, handed.taken, handed.offers ready⟩

theorem timed_proceeds {step : Step} {limit : Option Nat} {field : Option Nat → FieldReader α}
    {result : Except FieldHalt α}
    (hf : ∀ deadline, Wire.Takes deadline (field deadline) used rest result) :
    Proceeds (timed step limit field) used rest [] (result.mapError (FieldHalt.during step)) := by
  intro talk ho
  have early : (limit.map (talk.now + ·)).any (· < talk.now) = false := by
    cases limit <;> simp
  obtain ⟨source, hr, ht, ho⟩ := hf _ ⟨talk.now, talk.source⟩ early ho
  refine ⟨source, ?_, ht, ho⟩
  simp only [timed, hr, List.append_nil]

theorem greet_proceeds {hello : List UInt8} (readTimeout : Nat) (fits : hello.length < 65536) :
    Proceeds (greet readTimeout) (Wire.frame hello) rest [greeted hello] (.ok ()) := by
  simpa using (greet_manages readTimeout fits).proceeds rest

theorem demandSecret_proceeds (secret : Secret) (readTimeout : Nat) :
    Proceeds (demandSecret secret readTimeout) secret.bytes rest [] (.ok ()) := by
  simpa using (demandSecret_manages secret readTimeout).proceeds rest

theorem demandSecret_wrong {secret : Secret} {candidate : List UInt8} (readTimeout : Nat)
    (whole : candidate.length = Secret.length) (wrong : candidate ≠ secret.bytes) :
    Proceeds (demandSecret secret readTimeout) candidate rest [] (.error (.failed .badSecret)) := by
  refine (timed_proceeds fun _ => (Wire.readBytes_collects whole).takes).judge ?_
  rw [checkSecret, if_neg fun h => wrong (Secret.admits_iff.mp h)]
  exact Proceeds.throw _

theorem learnDestination_proceeds {result : Except ProtocolError Destination}
    (pooling : Option Nat) (h : Addressed used rest result) :
    Proceeds (learnDestination pooling) used rest []
      (result.mapError fun cause => .failed (.protocol .destination cause)) := by
  cases h with
  | lengthCut short =>
    exact (timed_proceeds fun _ => (Wire.readU16_cut short).bind_error _).bind_error _
  | hostCut short => exact (timed_proceeds fun _ => Wire.readString_cut short).bind_error _
  | noText fits ill => exact (timed_proceeds fun _ => Wire.readString_ill fits ill).bind_error _
  | portCut fits short =>
    refine (timed_proceeds fun _ => (Wire.readString_collects fits).takes).bind ?_
    exact (timed_proceeds fun _ => Wire.readU16_cut short).bind_error _
  | @named host port rest fits =>
    have named : Proceeds (learnDestination pooling)
        (Wire.frame (Utf8.encode host) ++ Wire.encodeU16 port) rest [] (.ok ⟨host, port⟩) := by
      simpa using (learnDestination_manages port pooling fits).proceeds rest
    exact named

theorem identify_proceeds {hello : List UInt8} {milliseconds : Int32}
    {limit : Except HandshakeHalt (Option Nat)} (secret : Secret) (readTimeout : Nat)
    (fits : hello.length < 65536)
    (hl : Manages (some readTimeout) (learnLimit readTimeout) [Wire.encodeI32 milliseconds] []
      limit) :
    Proceeds (identify secret readTimeout) (introduction hello secret milliseconds) rest
      [greeted hello] limit := by
  simpa [introduction] using (identify_manages secret fits hl).proceeds rest

theorem identify_refuses {secret : Secret} {account : Account} (readTimeout : Nat)
    (h : Verdict secret rest account) (hs : account.sent = []) :
    ∃ halt, account.result = .error halt ∧
      Proceeds (identify secret readTimeout) account.taken rest account.log (.error halt) := by
  cases h with
  | helloLengthCut short =>
    refine ⟨_, rfl, Proceeds.bind_error (Proceeds.bind_error ?_ _) _⟩
    exact timed_proceeds fun _ => (Wire.readU16_cut short).bind_error _
  | helloCut short =>
    refine ⟨_, rfl, Proceeds.bind_error (Proceeds.bind_error ?_ _) _⟩
    exact timed_proceeds fun _ => Wire.skipString_cut short
  | secretCut fits short =>
    refine ⟨_, rfl, (greet_proceeds readTimeout fits).bind (Proceeds.bind_error ?_ _)⟩
    exact (timed_proceeds fun _ => Wire.readBytes_cut short).bind_error _
  | wrongSecret fits whole wrong =>
    refine ⟨_, rfl, (greet_proceeds readTimeout fits).bind (Proceeds.bind_error ?_ _)⟩
    exact demandSecret_wrong readTimeout whole wrong
  | timeoutCut fits short =>
    rw [List.append_assoc]
    refine ⟨_, rfl, (greet_proceeds readTimeout fits).bind
      ((demandSecret_proceeds secret readTimeout).bind ?_)⟩
    exact (timed_proceeds fun _ => Wire.readI32_cut short).bind_error _
  | negativeTimeout fits negative =>
    refine ⟨_, rfl, ?_⟩
    exact identify_proceeds secret readTimeout fits (learnLimit_manages_negative negative)
  | introduced => cases hs

variable {talk : Conversation} {plan : SinkPlan} {time : Nat}

theorem offer_ask (hs : talk.sink = .ofPlan plan) (now : Nat) :
    (ask .write talk).sink.offer now 1 = (Sink.ofPlan plan).offer now 1 := by
  rw [sink_ask hs]
  rfl

theorem readyTime_eq_respondsAt (hs : talk.sink = .ofPlan plan) :
    readyTime (ask .write talk) = plan.respondsAt talk.now := by
  rw [readyTime, SinkPlan.respondsAt, offer_ask hs]
  rfl

/-- What a new sink makes of a byte once it answers the offer. -/
theorem sendByte_of_respondsAt (hs : talk.sink = .ofPlan plan)
    (hr : plan.respondsAt talk.now = some time) (step : Step) (byte : UInt8) :
    sendByte step byte talk =
      let failed (kind : IoErrorKind) : Except HandshakeHalt Unit :=
        .error (.failed (.protocol step (.io (.ofKind kind))))
      match (Sink.ofPlan plan).offer time 1 with
      | .pending _ => (.error .parked, { ask .write talk with now := time })
      | .fault kind => (failed kind, { ask .write talk with now := time })
      | .accepts 0 => (failed .writeZero, { ask .write talk with now := time })
      | .accepts (_ + 1) =>
        match plan.flush.nth 0 with
        | .fails kind due => (failed kind, { delivered time byte talk with now := max time due })
        | .hangs => (.error .parked, delivered time byte talk)
        | .succeeds due => (.ok (), flushed time (max time due) byte talk) := by
  have answer : (delivered time byte talk).sink.plan.flush.nth
      (delivered time byte talk).sink.flushes = plan.flush.nth 0 := by
    rw [sink_delivered hs]
  rw [← answer]
  simp only [sendByte, (readyTime_eq_respondsAt hs).trans hr, offer_ask hs]
  rfl

theorem sendByte_welcomed (hw : plan.Welcomes) (hs : talk.sink = .ofPlan plan) (step : Step)
    (byte : UInt8) :
    ∃ time, sendByte step byte talk = (.ok (), flushed time (plan.takesAt talk.now) byte talk) := by
  obtain ⟨time, responds, taken⟩ := hw.exists_respondsAt talk.now
  obtain ⟨due, flush⟩ := hw.flush
  have told : plan.takesAt talk.now = max time due := by
    simp only [SinkPlan.takesAt, SinkPlan.answersAt, responds, Option.bind_some, taken, flush,
      Completion.due?, Option.map_some, Option.getD_some]
  refine ⟨time, ?_⟩
  simp only [sendByte_of_respondsAt hs responds, taken, flush, told]

end Handshake

/-- The account of a handshake once nothing more happens in it. -/
def Account.of (ended : Except HandshakeHalt Destination × Conversation) : Account :=
  ⟨ended.1, ended.2.source.taken, ended.2.sink.accepted, ended.2.log⟩

variable {secret : Secret} {start : Nat} {script : List Event} {plan : SinkPlan}
  {bytes rest : List UInt8} {account : Account}

theorem account_of_refusal (readTimeout : Nat) (hv : Verdict secret rest account)
    (hs : account.sent = []) (ho : Offers start script (account.taken ++ rest)) :
    let ended := authenticate secret readTimeout ⟨start, .ofScript script, .ofPlan plan, []⟩
    Account.of ended = account ∧ Offers ended.2.now ended.2.source.script rest := by
  intro ended
  obtain ⟨halt, hr, hi⟩ := Handshake.identify_refuses readTimeout hv hs
  obtain ⟨source, he, ht, left⟩ := hi ⟨start, .ofScript script, .ofPlan plan, []⟩ ho
  have stop : ended = (.error halt, ⟨start, source, .ofPlan plan, account.log⟩) := bind_of_error he
  have taken : source.taken = account.taken := ht
  rw [stop]
  refine ⟨?_, left⟩
  simp only [Account.of, taken, Sink.accepted_ofPlan, ← hs, ← hr]

theorem account_of_introduction {hello used : List UInt8} {milliseconds : Int32}
    {result : Except ProtocolError Destination} (readTimeout : Nat) (hw : plan.Welcomes)
    (fits : hello.length < 65536) (positive : 0 ≤ milliseconds.toInt)
    (addressed : Addressed used rest result)
    (ho : Offers start script (introduction hello secret milliseconds ++ (used ++ rest))) :
    let ended := authenticate secret readTimeout ⟨start, .ofScript script, .ofPlan plan, []⟩
    Account.of ended = ⟨result.mapError fun cause => .failed (.protocol .destination cause),
      introduction hello secret milliseconds ++ used, [0], [greeted hello]⟩ ∧
      Offers ended.2.now ended.2.source.script rest := by
  intro ended
  have hi : Handshake.Proceeds (Handshake.identify secret readTimeout)
      (introduction hello secret milliseconds) (used ++ rest) [greeted hello]
      (.ok (Handshake.pooling milliseconds)) :=
    Handshake.identify_proceeds secret readTimeout fits (Handshake.learnLimit_manages positive)
  obtain ⟨source, he, ht, ready⟩ := hi ⟨start, .ofScript script, .ofPlan plan, []⟩ ho
  let known : Conversation := ⟨start, source, .ofPlan plan, [greeted hello]⟩
  have fresh : known.sink = .ofPlan plan := rfl
  obtain ⟨time, hs⟩ := Handshake.sendByte_welcomed hw fresh .status Status.ok.code
  let said : Conversation := Handshake.flushed time (plan.takesAt start) Status.ok.code known
  have ready : Offers said.now said.source.script (used ++ rest) :=
    ready.mono (plan.le_takesAt start)
  obtain ⟨after, hl, ht', left⟩ := Handshake.learnDestination_proceeds
    (Handshake.pooling milliseconds) addressed said ready
  have finish : ended = _ := (bind_of_ok he).trans ((bind_of_ok hs).trans hl)
  have taken : after.taken = introduction hello secret milliseconds ++ used := by
    rw [ht']
    exact congrArg (· ++ used) ht
  rw [finish]
  refine ⟨?_, left⟩
  simp only [Account.of, taken, said, Handshake.sink_flushed fresh]
  rfl

/-- A handshake comes to the account that the grammar gives, and leaves what that leaves. -/
theorem account_of_verdict (readTimeout : Nat) (hw : plan.Welcomes)
    (hv : Verdict secret rest account) (ho : Offers start script (account.taken ++ rest)) :
    let ended := authenticate secret readTimeout ⟨start, .ofScript script, .ofPlan plan, []⟩
    Account.of ended = account ∧ Offers ended.2.now ended.2.source.script rest := by
  by_cases hs : account.sent = []
  · exact account_of_refusal readTimeout hv hs ho
  · cases hv with
    | introduced fits positive addressed =>
      rw [List.append_assoc] at ho
      exact account_of_introduction readTimeout hw fits positive addressed ho
    | _ => exact absurd rfl hs

theorem account_iff_verdict (secret : Secret) (readTimeout : Nat) (hw : plan.Welcomes)
    (ho : Offers start script bytes) :
    Account.of (authenticate secret readTimeout ⟨start, .ofScript script, .ofPlan plan, []⟩) =
      account ↔ ∃ rest, bytes = account.taken ++ rest ∧ Verdict secret rest account := by
  constructor
  · intro h
    obtain ⟨known, rest, rfl, hv⟩ := exists_verdict secret bytes
    rw [← h, (account_of_verdict readTimeout hw hv ho).1]
    exact ⟨rest, rfl, hv⟩
  · rintro ⟨rest, rfl, hv⟩
    exact (account_of_verdict readTimeout hw hv ho).1

/-- A request in full: an introduction and where the client wants to go. -/
def IsRequest (secret : Secret) (destination : Destination) (bytes : List UInt8) : Prop :=
  ∃ hello milliseconds, hello.length < 65536 ∧ 0 ≤ milliseconds.toInt ∧
    (Utf8.encode destination.host).length < 65536 ∧
    bytes = introduction hello secret milliseconds ++
      (Wire.frame (Utf8.encode destination.host) ++ Wire.encodeU16 destination.port)

theorem IsRequest.exists_verdict {destination : Destination} {request : List UInt8}
    (h : IsRequest secret destination request) (rest : List UInt8) :
    ∃ sent log, Verdict secret rest ⟨.ok destination, request, sent, log⟩ := by
  obtain ⟨hello, milliseconds, fits, positive, fits', rfl⟩ := h
  exact ⟨_, _, .introduced fits positive (.named fits')⟩

theorem IsRequest.of_verdict {destination : Destination} (hv : Verdict secret rest account)
    (hr : account.result = .ok destination) : IsRequest secret destination account.taken := by
  cases hv with
  | introduced fits positive addressed =>
    cases addressed with
    | named fits' =>
      cases hr
      exact ⟨_, _, fits, positive, fits', rfl⟩
    | _ => cases hr
  | _ => cases hr

/-- The handshake succeeds exactly if the bytes begin with a request, and takes this request; on all
other bytes the first field that is wrong decides, as the grammar says. How the bytes are divided
makes no difference. -/
theorem authenticate_accepts (secret : Secret) (readTimeout : Nat) (hw : plan.Welcomes)
    (ho : Offers start script bytes) :
    let ended := authenticate secret readTimeout ⟨start, .ofScript script, .ofPlan plan, []⟩
    (∀ destination request, ended.1 = .ok destination ∧ ended.2.source.taken = request ↔
      IsRequest secret destination request ∧ request <+: bytes) ∧
    (∀ account, Account.of ended = account ↔
      ∃ rest, bytes = account.taken ++ rest ∧ Verdict secret rest account) ∧
    ∀ division, Offers start division bytes →
      Account.of (authenticate secret readTimeout ⟨start, .ofScript division, .ofPlan plan, []⟩) =
        Account.of ended := by
  intro ended
  have judged (account : Account) : Account.of ended = account ↔
      ∃ rest, bytes = account.taken ++ rest ∧ Verdict secret rest account :=
    account_iff_verdict secret readTimeout hw ho
  refine ⟨?_, judged, ?_⟩
  · intro destination request
    constructor
    · rintro ⟨succeeded, rfl⟩
      obtain ⟨rest, hb, hv⟩ := (judged (.of ended)).mp rfl
      exact ⟨.of_verdict hv succeeded, rest, hb.symm⟩
    · rintro ⟨asked, rest, hb⟩
      obtain ⟨sent, log, hv⟩ := asked.exists_verdict rest
      have same := (judged ⟨.ok destination, request, sent, log⟩).mpr ⟨rest, hb.symm, hv⟩
      exact ⟨congrArg Account.result same, congrArg Account.taken same⟩
  · intro division hd
    have account := (judged (.of ended)).mp rfl
    exact (account_iff_verdict secret readTimeout hw hd).mpr account

def Source.drip (bytes : List UInt8) : List Event :=
  bytes.map (fun b => ⟨0, .data [b]⟩) ++ [⟨0, .endOfStream⟩]

theorem offers_drip (now : Nat) (bytes : List UInt8) : Offers now (Source.drip bytes) bytes := by
  induction bytes with
  | nil => exact .ended (Nat.zero_le now)
  | cons b bytes ih => exact .piece (Nat.zero_le now) ih

def sevens : Secret := ⟨List.replicate 64 7, rfl⟩

/-- A sink that takes single bytes, none for a while, and flushes only the first of them. -/
def SinkPlan.slow : SinkPlan :=
  ⟨none, some 1, [⟨0, some 25⟩], some 1, ⟨[.succeeds 40], .hangs⟩, .hangs⟩

theorem slow_welcomes : SinkPlan.slow.Welcomes where
  sound := by
    intro fault h
    cases h
  room := by decide
  moves := by decide
  portion := by decide
  flush := ⟨40, rfl⟩

def roughRequest : List UInt8 :=
  introduction [0xFF] sevens 0 ++ (Wire.frame (Utf8.encode "a") ++ Wire.encodeU16 443)

theorem isRequest_roughRequest : IsRequest sevens ⟨"a", 443⟩ roughRequest :=
  ⟨[0xFF], 0, by decide, by decide, by decide, rfl⟩

/-- One more byte follows the request. -/
def roughTalk : Conversation := ⟨3, .ofScript (Source.drip (roughRequest ++ [9])), .ofPlan .slow, []⟩

theorem authenticate_accepts_roughTalk :
    SinkPlan.slow.Welcomes ∧ Offers 3 (Source.drip (roughRequest ++ [9])) (roughRequest ++ [9]) ∧
      (authenticate sevens 0 roughTalk).1 = .ok ⟨"a", 443⟩ ∧
      (authenticate sevens 0 roughTalk).2.source.taken = roughRequest := by
  have ready : Offers 3 (Source.drip (roughRequest ++ [9])) (roughRequest ++ [9]) := offers_drip 3 _
  have accepts := (authenticate_accepts sevens 0 slow_welcomes ready).1 ⟨"a", 443⟩ roughRequest
  exact ⟨slow_welcomes, ready, accepts.mpr ⟨isRequest_roughRequest, [9], rfl⟩⟩

end TunnelServer
