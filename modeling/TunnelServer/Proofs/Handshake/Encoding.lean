import TunnelServer.Proofs.Handshake.Acceptance

/-!
# What a client encodes, the server decodes

A request is a list of fields, each of which shows where it ends: strings come after their length,
and the other fields have a fixed size. So the server finds the fields of a request again, whatever
comes after them and however the bytes are divided, and no request is the beginning of another.
-/

namespace TunnelServer

open Source (Brings Punctual readyAt)

namespace Wire

variable {text : String} {first second rest rest' : List UInt8}

theorem encodeString_of_le (h : (Utf8.encode text).length ≤ 65535) :
    encodeString text = .ok (frame (Utf8.encode text)) := if_pos (Nat.lt_succ_of_le h)

theorem encodeString_of_lt (h : 65535 < (Utf8.encode text).length) :
    encodeString text = .error (.stringTooLong (Utf8.encode text).length) :=
  if_neg (Nat.not_lt.mpr h)

theorem frame_append_inj (h : first.length < 65536) (h' : second.length < 65536)
    (he : frame first ++ rest = frame second ++ rest') : first = second ∧ rest = rest' := by
  simp only [frame, List.append_assoc] at he
  obtain ⟨numbers, bodies⟩ := List.append_inj he (by simp only [length_toBigEndian])
  have lengths : first.length = second.length := by
    have same := congrArg ofBigEndian numbers
    have width : span 2 = 65536 := rfl
    rwa [ofBigEndian_toBigEndian, ofBigEndian_toBigEndian, width, Nat.mod_eq_of_lt h,
      Nat.mod_eq_of_lt h'] at same
  exact List.append_inj bodies lengths

theorem encodeI32_append_inj {value value' : Int32}
    (he : encodeI32 value ++ rest = encodeI32 value' ++ rest') : value = value' ∧ rest = rest' := by
  obtain ⟨numbers, rests⟩ := List.append_inj he (by simp only [length_encodeI32])
  rw [← decodeI32_encodeI32 value, numbers, decodeI32_encodeI32]
  exact ⟨rfl, rests⟩

theorem encodeU16_append_inj {value value' : UInt16}
    (he : encodeU16 value ++ rest = encodeU16 value' ++ rest') : value = value' ∧ rest = rest' := by
  obtain ⟨numbers, rests⟩ := List.append_inj he (by simp only [length_encodeU16])
  rw [← decodeU16_encodeU16 value, numbers, decodeU16_encodeU16]
  exact ⟨rfl, rests⟩

end Wire

theorem Secret.append_inj {first second : Secret} {rest rest' : List UInt8}
    (he : first.bytes ++ rest = second.bytes ++ rest') : first = second ∧ rest = rest' := by
  obtain ⟨bytes, rests⟩ := List.append_inj he (first.length_bytes.trans second.length_bytes.symm)
  obtain ⟨bytes', length⟩ := first
  subst bytes
  exact ⟨rfl, rests⟩

namespace Request

/-- The fields that are sent before the status byte. -/
def authFields (request : Request) : List (List UInt8) :=
  [Wire.frame (Utf8.encode request.hello), request.secret.bytes, Wire.encodeI32 request.timeout]

/-- The fields that are sent after the status byte. -/
def destinationFields (request : Request) : List (List UInt8) :=
  [Wire.frame (Utf8.encode request.host), Wire.encodeU16 request.port]

variable {request other : Request} {auth named bytes bytes' : List UInt8} {cause : ProtocolError}

theorem encodeAuth_eq_ok_iff : request.encodeAuth = .ok auth ↔
    (Utf8.encode request.hello).length ≤ 65535 ∧ auth = request.authFields.flatten := by
  rcases Nat.lt_or_ge 65535 (Utf8.encode request.hello).length with long | fits
  · have none : request.encodeAuth = .error _ := congrArg (· >>= _) (Wire.encodeString_of_lt long)
    simp [none, Nat.not_le.mpr long]
  · have some : request.encodeAuth = .ok _ := congrArg (· >>= _) (Wire.encodeString_of_le fits)
    simp [some, fits, authFields, eq_comm]

theorem encodeDestination_eq_ok_iff : request.encodeDestination = .ok named ↔
    (Utf8.encode request.host).length ≤ 65535 ∧ named = request.destinationFields.flatten := by
  rcases Nat.lt_or_ge 65535 (Utf8.encode request.host).length with long | fits
  · have none : request.encodeDestination = .error _ :=
      congrArg (· >>= _) (Wire.encodeString_of_lt long)
    simp [none, Nat.not_le.mpr long]
  · have some : request.encodeDestination = .ok _ :=
      congrArg (· >>= _) (Wire.encodeString_of_le fits)
    simp [some, fits, destinationFields, eq_comm]

theorem encode_eq_ok_iff : request.encode = .ok bytes ↔ ∃ auth named,
    request.encodeAuth = .ok auth ∧ request.encodeDestination = .ok named ∧
      bytes = auth ++ named := by
  unfold encode
  cases ha : request.encodeAuth with
  | error => simp [bind, Except.bind]
  | ok =>
    cases hd : request.encodeDestination with
    | error => simp [bind, Except.bind]
    | ok => simp [bind, Except.bind, pure, Except.pure, eq_comm]

theorem encode_eq_error_iff : request.encode = .error cause ↔
    (65535 < (Utf8.encode request.hello).length ∧
      cause = .stringTooLong (Utf8.encode request.hello).length) ∨
    ((Utf8.encode request.hello).length ≤ 65535 ∧ 65535 < (Utf8.encode request.host).length ∧
      cause = .stringTooLong (Utf8.encode request.host).length) := by
  rcases Nat.lt_or_ge 65535 (Utf8.encode request.hello).length with long | fits
  · have none : request.encodeAuth = .error _ := congrArg (· >>= _) (Wire.encodeString_of_lt long)
    have whole : request.encode = .error _ := congrArg (· >>= _) none
    simp [whole, long, Nat.not_le.mpr long, eq_comm]
  · have auth : request.encodeAuth = .ok _ := encodeAuth_eq_ok_iff.mpr ⟨fits, rfl⟩
    rcases Nat.lt_or_ge 65535 (Utf8.encode request.host).length with long | fits'
    · have none : request.encodeDestination = .error _ :=
        congrArg (· >>= _) (Wire.encodeString_of_lt long)
      have whole : request.encode = .error (.stringTooLong (Utf8.encode request.host).length) := by
        rw [encode, auth, none]
        rfl
      simp [whole, fits, Nat.not_lt.mpr fits, long, eq_comm]
    · have named : request.encodeDestination = .ok _ := encodeDestination_eq_ok_iff.mpr ⟨fits', rfl⟩
      have whole : request.encode = .ok _ := encode_eq_ok_iff.mpr ⟨_, _, auth, named, rfl⟩
      simp [whole, Nat.not_lt.mpr fits, Nat.not_lt.mpr fits']

/-- No request is the beginning of another one. -/
theorem eq_of_isPrefix (h : request.encode = .ok bytes) (h' : other.encode = .ok bytes')
    (hp : bytes <+: bytes') : request = other := by
  obtain ⟨auth, named, ha, hd, rfl⟩ := encode_eq_ok_iff.mp h
  obtain ⟨auth', named', ha', hd', rfl⟩ := encode_eq_ok_iff.mp h'
  obtain ⟨fits, rfl⟩ := encodeAuth_eq_ok_iff.mp ha
  obtain ⟨fits', rfl⟩ := encodeAuth_eq_ok_iff.mp ha'
  obtain ⟨short, rfl⟩ := encodeDestination_eq_ok_iff.mp hd
  obtain ⟨short', rfl⟩ := encodeDestination_eq_ok_iff.mp hd'
  obtain ⟨rest, split⟩ := hp
  simp only [authFields, destinationFields, List.flatten_cons, List.flatten_nil, List.append_nil,
    List.append_assoc] at split
  obtain ⟨hello, split⟩ := Wire.frame_append_inj (Nat.lt_succ_of_le fits) (Nat.lt_succ_of_le fits')
    split
  obtain ⟨secret, split⟩ := Secret.append_inj split
  obtain ⟨timeout, split⟩ := Wire.encodeI32_append_inj split
  obtain ⟨host, split⟩ := Wire.frame_append_inj (Nat.lt_succ_of_le short)
    (Nat.lt_succ_of_le short') split
  rw [← List.append_nil (Wire.encodeU16 other.port)] at split
  obtain ⟨port, -⟩ := Wire.encodeU16_append_inj split
  rcases request with ⟨name, _, _, place, _⟩
  rcases other with ⟨name', _, _, place', _⟩
  obtain rfl : name = name' := Utf8.encode_injective hello
  obtain rfl : place = place' := Utf8.encode_injective host
  subst secret timeout port
  rfl

/-- When the server has told a client that its secret is right. -/
def toldAt (request : Request) (start : Nat) (script : List Event) (plan : SinkPlan) : Nat :=
  plan.takesAt (readyAt start request.authFields.flatten.length script)

/-- The fields of a request arrive in time for a server that starts to read at a time: those of the
destination within the limit that the client asks for, counted from the status byte on. -/
structure InTime (request : Request) (readTimeout start : Nat) (script : List Event)
    (plan : SinkPlan) : Prop where
  auth : Punctual (some readTimeout) start script 0 request.authFields
  destination : Punctual (Handshake.pooling request.timeout) (request.toldAt start script plan)
    script request.authFields.flatten.length request.destinationFields

end Request

variable {request : Request} {readTimeout start : Nat} {tail script : List Event}
  {plan : SinkPlan} {rest : List UInt8}

/-- A request in time is understood when its last byte has arrived, and what follows is left. -/
theorem authenticate_in_time (hw : plan.Welcomes) (positive : 0 ≤ request.timeout.toInt)
    (fits : (Utf8.encode request.hello).length ≤ 65535)
    (fits' : (Utf8.encode request.host).length ≤ 65535)
    (inTime : request.InTime readTimeout start script plan)
    (brings : Brings tail script
      (request.authFields.flatten ++ (request.destinationFields.flatten ++ rest))) :
    let ended := authenticate request.secret readTimeout
      ⟨start, .ofScript script, .ofPlan plan, []⟩
    ended.1 = .ok request.destination ∧
      ended.2.now = readyAt (request.toldAt start script plan)
        (request.authFields.flatten ++ request.destinationFields.flatten).length script ∧
      Source.Handed tail (request.authFields.flatten ++ request.destinationFields.flatten) rest
        ended.2.now (.ofScript script) ended.2.source := by
  intro ended
  let arrived := readyAt start request.authFields.flatten.length script
  obtain ⟨middle, he, handed⟩ := Handshake.identify_manages request.secret
    (Nat.lt_succ_of_le fits) (Handshake.learnLimit_manages positive)
    ⟨start, .ofScript script, .ofPlan plan, []⟩ tail _ brings inTime.auth
  let known : Conversation :=
    ⟨arrived, middle, .ofPlan plan, [greeted (Utf8.encode request.hello)]⟩
  obtain ⟨time, hs⟩ :=
    Handshake.sendByte_welcomed hw (rfl : known.sink = .ofPlan plan) .status Status.ok.code
  let told := request.toldAt start script plan
  let said : Conversation := Handshake.flushed time told Status.ok.code known
  have later : arrived ≤ told := plan.le_takesAt arrived
  have resumes : Source.Resumes request.authFields.flatten.length told script middle.script :=
    handed.resumes.mono later
  have inScript : Punctual (Handshake.pooling request.timeout) told script
      (request.authFields.flatten.length + 0) request.destinationFields := inTime.destination
  have inTime' : Punctual (Handshake.pooling request.timeout) told middle.script 0
      request.destinationFields := inScript.resumes resumes
  obtain ⟨after, hl, handed'⟩ := Handshake.learnDestination_manages request.port
    (Handshake.pooling request.timeout) (Nat.lt_succ_of_le fits') said tail rest handed.brings inTime'
  have finish : ended = _ := (bind_of_ok he).trans ((bind_of_ok hs).trans hl)
  have sooner : arrived ≤ readyAt told request.destinationFields.flatten.length middle.script :=
    Nat.le_trans later (Source.le_readyAt ..)
  rw [finish, List.length_append]
  exact ⟨rfl, resumes told _ (Nat.le_refl told), handed.trans handed' sooner⟩

theorem authenticate_negative (negative : request.timeout.toInt < 0)
    (fits : (Utf8.encode request.hello).length ≤ 65535)
    (inTime : Punctual (some readTimeout) start script 0 request.authFields)
    (brings : Brings tail script (request.authFields.flatten ++ rest)) :
    let ended := authenticate request.secret readTimeout
      ⟨start, .ofScript script, .ofPlan plan, []⟩
    ended.1 = .error (.failed (.protocol .timeout (.negativeTimeout request.timeout))) ∧
      ended.2.source.taken = request.authFields.flatten ∧ ended.2.sink = .ofPlan plan := by
  intro ended
  obtain ⟨source, he, handed⟩ := Handshake.identify_manages request.secret
    (Nat.lt_succ_of_le fits) (Handshake.learnLimit_manages_negative negative)
    ⟨start, .ofScript script, .ofPlan plan, []⟩ tail rest brings inTime
  have stop : ended = _ := bind_of_error he
  rw [stop]
  exact ⟨rfl, handed.taken, rfl⟩

/-- A server decodes what a client encodes. A request is encoded unless one of its strings is too
long; the server finds it again in front of any bytes, however they are divided, and takes nothing
of what follows. So a request is told by its encoding, even if more bytes come after it. -/
theorem encode_decoded (request : Request) :
    (∀ cause, request.encode = .error cause ↔
      (65535 < (Utf8.encode request.hello).length ∧
        cause = .stringTooLong (Utf8.encode request.hello).length) ∨
      ((Utf8.encode request.hello).length ≤ 65535 ∧ 65535 < (Utf8.encode request.host).length ∧
        cause = .stringTooLong (Utf8.encode request.host).length)) ∧
    (∀ bytes, request.encode = .ok bytes ↔ ∃ auth named, request.encodeAuth = .ok auth ∧
      request.encodeDestination = .ok named ∧ bytes = auth ++ named) ∧
    (∀ auth named, request.encodeAuth = .ok auth → request.encodeDestination = .ok named →
      ∀ readTimeout start script plan tail rest, Brings tail script (auth ++ named ++ rest) →
        let ended := authenticate request.secret readTimeout
          ⟨start, .ofScript script, .ofPlan plan, []⟩
        (0 ≤ request.timeout.toInt → plan.Welcomes →
          request.InTime readTimeout start script plan →
          ended.1 = .ok ⟨request.host, request.port⟩ ∧ ended.2.source.taken = auth ++ named ∧
            Brings tail ended.2.source.script rest) ∧
        (request.timeout.toInt < 0 →
          Punctual (some readTimeout) start script 0 request.authFields →
          ended.1 = .error (.failed (.protocol .timeout (.negativeTimeout request.timeout))) ∧
            ended.2.source.taken = auth ∧ ended.2.sink = .ofPlan plan)) ∧
    ∀ other bytes bytes', request.encode = .ok bytes → other.encode = .ok bytes' →
      bytes <+: bytes' → request = other ∧ bytes = bytes' := by
  refine ⟨fun cause => Request.encode_eq_error_iff, fun bytes => Request.encode_eq_ok_iff, ?_, ?_⟩
  · intro auth named ha hd readTimeout start script plan tail rest brings ended
    obtain ⟨fits, rfl⟩ := Request.encodeAuth_eq_ok_iff.mp ha
    obtain ⟨fits', rfl⟩ := Request.encodeDestination_eq_ok_iff.mp hd
    rw [List.append_assoc] at brings
    constructor
    · intro positive hw inTime
      obtain ⟨known, -, handed⟩ := authenticate_in_time hw positive fits fits' inTime brings
      exact ⟨known, handed.taken, handed.brings⟩
    · intro negative inTime
      exact authenticate_negative negative fits inTime brings
  · intro other bytes bytes' h h' hp
    obtain rfl := Request.eq_of_isPrefix h h' hp
    exact ⟨rfl, Except.ok.inj (h.symm.trans h')⟩

/-- A request that arrives in three pieces, none of which is a field, and in the last of which one
more byte comes; and then something else. -/
def Request.haltingly (request : Request) (more : List Event) : List Event :=
  let auth := request.authFields.flatten
  let named := request.destinationFields.flatten
  ⟨2, .data (auth.take 5)⟩ :: ⟨9, .data (auth.drop 5 ++ named.take 3)⟩ ::
    ⟨30, .data (named.drop 3 ++ [9])⟩ :: more

theorem Request.brings_haltingly (request : Request) {more : List Event}
    (h : Brings tail more rest) : Brings tail (request.haltingly more)
      (request.authFields.flatten ++ request.destinationFields.flatten ++ 9 :: rest) := by
  have pieces : Brings tail (request.haltingly more) _ := .piece (.piece (.piece h))
  simpa only [List.append_assoc, List.singleton_append, ← List.append_assoc (List.take _ _),
    List.take_append_drop] using pieces

def knock : Request := ⟨"hi", sevens, 40, "a", 443⟩

def rudeKnock : Request := { knock with timeout := -1 }

theorem encode_decoded_knock :
    (authenticate sevens 10 ⟨0, .ofScript (knock.haltingly []), .ofPlan .slow, []⟩).1 =
        .ok ⟨"a", 443⟩ ∧
      (authenticate sevens 10 ⟨0, .ofScript (rudeKnock.haltingly []), .ofPlan .slow, []⟩).1 =
        .error (.failed (.protocol .timeout (.negativeTimeout (-1)))) := by
  have auth : knock.encodeAuth = .ok _ := Request.encodeAuth_eq_ok_iff.mpr ⟨by decide, rfl⟩
  have named : knock.encodeDestination = .ok _ :=
    Request.encodeDestination_eq_ok_iff.mpr ⟨by decide, rfl⟩
  have auth' : rudeKnock.encodeAuth = .ok _ := Request.encodeAuth_eq_ok_iff.mpr ⟨by decide, rfl⟩
  have inTime : Punctual (some 10) 0 (knock.haltingly []) 0 knock.authFields :=
    ⟨by decide, by decide, by decide, trivial⟩
  have inTime' : Punctual (some 10) 0 (rudeKnock.haltingly []) 0 rudeKnock.authFields :=
    ⟨by decide, by decide, by decide, trivial⟩
  have answer := (encode_decoded knock).2.2.1 _ _ auth named 10 0 (knock.haltingly []) .slow []
    [9] (knock.brings_haltingly (.done rfl))
  have answer' := (encode_decoded rudeKnock).2.2.1 _ _ auth' named 10 0
    (rudeKnock.haltingly []) .slow [] [9] (rudeKnock.brings_haltingly (.done rfl))
  refine ⟨(answer.1 (by decide) slow_welcomes ⟨inTime, ?_⟩).1, (answer'.2 (by decide) inTime').1⟩
  exact ⟨by decide, by decide, trivial⟩

end TunnelServer
