import TunnelServer.Handshake

/-!
# The grammar of the handshake

All that a client can say falls into an introduction, which is a greeting, the secret and a time
limit, and a destination. The first field that is missing in part, or that says the wrong thing,
decides what becomes of the handshake; every sequence of bytes has exactly one such account.
-/

namespace TunnelServer

def introduction (hello : List UInt8) (secret : Secret) (milliseconds : Int32) : List UInt8 :=
  Wire.frame hello ++ secret.bytes ++ Wire.encodeI32 milliseconds

def greeted (hello : List UInt8) : LogLine :=
  ⟨.debug, "Client hello: " ++ toString hello.length ++ " bytes"⟩

/-- What a handshake gave, took, sent and logged. -/
structure Account where
  result : Except HandshakeHalt Destination
  taken : List UInt8
  sent : List UInt8
  log : List LogLine

/-- What becomes of the bytes after the introduction: of these the first are taken, the others are
left. A field that is cut short leaves nothing. -/
inductive Addressed : List UInt8 → List UInt8 → Except ProtocolError Destination → Prop where
  | lengthCut {part : List UInt8} (short : part.length < 2) :
      Addressed part [] (.error (.io .unexpectedEnd))
  | hostCut {length : UInt16} {part : List UInt8} (short : part.length < length.toNat) :
      Addressed (Wire.encodeU16 length ++ part) [] (.error (.io .earlyEnd))
  | noText {host rest : List UInt8} (fits : host.length < 65536)
      (ill : ∀ text, host ≠ Utf8.encode text) :
      Addressed (Wire.frame host) rest (.error .invalidUtf8)
  | portCut {host : String} {part : List UInt8} (fits : (Utf8.encode host).length < 65536)
      (short : part.length < 2) :
      Addressed (Wire.frame (Utf8.encode host) ++ part) [] (.error (.io .unexpectedEnd))
  | named {host : String} {port : UInt16} {rest : List UInt8}
      (fits : (Utf8.encode host).length < 65536) :
      Addressed (Wire.frame (Utf8.encode host) ++ Wire.encodeU16 port) rest (.ok ⟨host, port⟩)

/-- What becomes of a handshake with these bytes left over. -/
inductive Verdict (secret : Secret) : List UInt8 → Account → Prop where
  | helloLengthCut {part : List UInt8} (short : part.length < 2) :
      Verdict secret []
        ⟨.error (.failed (.protocol .hello (.io .unexpectedEnd))), part, [], []⟩
  | helloCut {length : UInt16} {part : List UInt8} (short : part.length < length.toNat) :
      Verdict secret []
        ⟨.error (.failed (.protocol .hello (.io .unexpectedEnd))), Wire.encodeU16 length ++ part,
          [], []⟩
  | secretCut {hello part : List UInt8} (fits : hello.length < 65536)
      (short : part.length < Secret.length) :
      Verdict secret []
        ⟨.error (.failed (.protocol .secret (.io .earlyEnd))), Wire.frame hello ++ part, [],
          [greeted hello]⟩
  | wrongSecret {hello candidate rest : List UInt8} (fits : hello.length < 65536)
      (whole : candidate.length = Secret.length) (wrong : candidate ≠ secret.bytes) :
      Verdict secret rest
        ⟨.error (.failed .badSecret), Wire.frame hello ++ candidate, [], [greeted hello]⟩
  | timeoutCut {hello part : List UInt8} (fits : hello.length < 65536) (short : part.length < 4) :
      Verdict secret []
        ⟨.error (.failed (.protocol .timeout (.io .unexpectedEnd))),
          Wire.frame hello ++ secret.bytes ++ part, [], [greeted hello]⟩
  | negativeTimeout {hello rest : List UInt8} {milliseconds : Int32} (fits : hello.length < 65536)
      (negative : milliseconds.toInt < 0) :
      Verdict secret rest
        ⟨.error (.failed (.protocol .timeout (.negativeTimeout milliseconds))),
          introduction hello secret milliseconds, [], [greeted hello]⟩
  | introduced {hello used rest : List UInt8} {milliseconds : Int32}
      {result : Except ProtocolError Destination} (fits : hello.length < 65536)
      (positive : 0 ≤ milliseconds.toInt) (addressed : Addressed used rest result) :
      Verdict secret rest
        ⟨result.mapError fun cause => .failed (.protocol .destination cause),
          introduction hello secret milliseconds ++ used, [0], [greeted hello]⟩

namespace Wire

theorem exists_split (wanted : Nat) (bytes : List UInt8) : bytes.length < wanted ∨
    ∃ front rest, bytes = front ++ rest ∧ front.length = wanted := by
  rcases Nat.lt_or_ge bytes.length wanted with short | enough
  · exact .inl short
  · refine .inr ⟨bytes.take wanted, bytes.drop wanted, (List.take_append_drop ..).symm, ?_⟩
    rw [List.length_take, Nat.min_eq_left enough]

theorem exists_frame (bytes : List UInt8) : bytes.length < 2 ∨
    (∃ (length : UInt16) (part : List UInt8), bytes = encodeU16 length ++ part ∧
      part.length < length.toNat) ∨
    ∃ body rest, bytes = frame body ++ rest ∧ body.length < 65536 := by
  rcases exists_split 2 bytes with short | ⟨front, later, rfl, hf⟩
  · exact .inl short
  · refine .inr ?_
    rw [← encodeU16_decodeU16 hf]
    rcases exists_split (decodeU16 front).toNat later with short | ⟨body, rest, rfl, hb⟩
    · exact .inl ⟨decodeU16 front, later, rfl, short⟩
    · have fits : body.length < 65536 := by
        rw [hb]
        exact (decodeU16 front).toNat_lt
      refine .inr ⟨body, rest, ?_, fits⟩
      rw [frame, hb, encodeU16, List.append_assoc]

end Wire

theorem exists_addressed (bytes : List UInt8) :
    ∃ used rest result, bytes = used ++ rest ∧ Addressed used rest result := by
  rcases Wire.exists_frame bytes with short | ⟨length, part, rfl, short⟩ | ⟨body, later, rfl, fits⟩
  · exact ⟨bytes, [], _, (List.append_nil _).symm, .lengthCut short⟩
  · exact ⟨_, [], _, (List.append_nil _).symm, .hostCut short⟩
  · by_cases ill : ∀ text, body ≠ Utf8.encode text
    · exact ⟨_, later, _, rfl, .noText fits ill⟩
    · obtain ⟨host, rfl⟩ : ∃ text, body = Utf8.encode text := by simpa using ill
      rcases Wire.exists_split 2 later with short | ⟨port, rest, rfl, hp⟩
      · exact ⟨_, [], _, (List.append_nil _).symm, .portCut fits short⟩
      · rw [← Wire.encodeU16_decodeU16 hp, ← List.append_assoc]
        exact ⟨_, rest, _, rfl, .named fits⟩

/-- Whatever the client says, the grammar has an account of it. -/
theorem exists_verdict (secret : Secret) (bytes : List UInt8) :
    ∃ account rest, bytes = account.taken ++ rest ∧ Verdict secret rest account := by
  rcases Wire.exists_frame bytes with short | ⟨length, part, rfl, short⟩ | ⟨hello, later, rfl, fits⟩
  · exact ⟨_, [], (List.append_nil _).symm, .helloLengthCut short⟩
  · exact ⟨_, [], (List.append_nil _).symm, .helloCut short⟩
  rcases Wire.exists_split Secret.length later with short | ⟨candidate, later, rfl, whole⟩
  · exact ⟨_, [], (List.append_nil _).symm, .secretCut fits short⟩
  rw [← List.append_assoc]
  by_cases right : candidate = secret.bytes
  · rw [right]
    rcases Wire.exists_split 4 later with short | ⟨limit, later, rfl, hl⟩
    · exact ⟨_, [], (List.append_nil _).symm, .timeoutCut fits short⟩
    rw [← Wire.encodeI32_decodeI32 hl, ← List.append_assoc]
    rcases Int.lt_or_le (Wire.decodeI32 limit).toInt 0 with negative | positive
    · exact ⟨_, later, rfl, .negativeTimeout fits negative⟩
    · obtain ⟨used, rest, result, rfl, addressed⟩ := exists_addressed later
      rw [← List.append_assoc]
      exact ⟨_, rest, rfl, .introduced fits positive addressed⟩
  · exact ⟨_, later, rfl, .wrongSecret fits whole right⟩

end TunnelServer
