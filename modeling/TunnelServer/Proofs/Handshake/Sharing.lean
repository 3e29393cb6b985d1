import TunnelServer.Proofs.Config.Validity
import TunnelServer.Proofs.Handshake.Guessing
import TunnelServer.Proofs.Handshake.Timetable
import TunnelServer.Proofs.Wire.Stem

/-!
# Which passwords let each other in

A server lets in those clients that present its own secret, and no others. Two passwords have the
same secret if they differ only in the code points zero at their ends; with any other difference
each keeps the other's clients out.
-/

namespace TunnelServer

open Source (Brings)

/-- A client that greets and then presents this secret, and sends anything after that. -/
structure Presents (presented : Secret) (script : List Event) (hello : List UInt8) : Prop where
  fits : hello.length < 65536
  brings : ∃ tail rest, Brings tail script (Wire.frame hello ++ (presented.bytes ++ rest))

namespace Secret

variable {secret presented : Secret}

/-- No client that presents the other secret is let in, at any time. -/
def KeepsOut (secret presented : Secret) : Prop :=
  ∀ script hello, Presents presented script hello → ∀ readTimeout start plan log destination,
    (authenticate secret readTimeout ⟨start, .ofScript script, .ofPlan plan, log⟩).1 ≠
      .ok destination

theorem bytes_inj : secret.bytes = presented.bytes ↔ secret = presented := by
  cases secret
  cases presented
  simp

theorem keepsOut (h : secret ≠ presented) : secret.KeepsOut presented := by
  intro script hello presents readTimeout start plan log destination
  have wrong : presented.bytes ≠ secret.bytes := fun same => h (bytes_inj.mp same.symm)
  have guess : Guesses script secret hello presented.bytes :=
    ⟨presents.fits, presented.length_bytes, wrong, presents.brings⟩
  rw [(guess.received readTimeout start plan log).1]
  simp

/-- A short request of a client with this secret. -/
def request (secret : Secret) : List UInt8 :=
  introduction [] secret 0 ++ (Wire.frame (Utf8.encode "a") ++ Wire.encodeU16 443)

theorem presents_drip (secret : Secret) : Presents secret (Source.drip secret.request) [] where
  fits := by decide
  brings := by
    obtain ⟨due, after, brings, -⟩ := Source.offers_iff.mp (offers_drip 0 secret.request)
    refine ⟨⟨due, .endOfStream⟩ :: after,
      Wire.encodeI32 0 ++ (Wire.frame (Utf8.encode "a") ++ Wire.encodeU16 443), ?_⟩
    simpa [request, introduction] using brings

theorem authenticate_request (secret : Secret) (readTimeout start : Nat) :
    (authenticate secret readTimeout
      ⟨start, .ofScript (Source.drip secret.request), .ofPlan .unrestricted, []⟩).1 =
      .ok ⟨"a", 443⟩ := by
  have asked : IsRequest secret ⟨"a", 443⟩ secret.request :=
    ⟨[], 0, by decide, by decide, by decide, rfl⟩
  obtain ⟨sent, log, verdict⟩ := asked.exists_verdict []
  have ready : Source.Offers start (Source.drip secret.request) (secret.request ++ []) := by
    rw [List.append_nil]
    exact offers_drip start secret.request
  have account := account_of_verdict readTimeout unrestricted_prompt.toWelcomes verdict ready
  exact congrArg Account.result account.1

/-- A server keeps out whoever presents another secret than its own. -/
theorem keepsOut_iff : secret.KeepsOut presented ↔ secret ≠ presented := by
  constructor
  · rintro safe rfl
    exact safe _ _ secret.presents_drip 0 0 .unrestricted [] ⟨"a", 443⟩
      (secret.authenticate_request 0 0)
  · exact keepsOut

end Secret

open Secret (ofPassword stem)

/-- A password is refused exactly if its UTF-8 form has more than 64 bytes, with this number of bytes.
Any other password has a secret, which admits a single candidate, the bytes of the password and zeros
behind them. Two passwords have the same secret exactly if they are equal but for the code points
zero at their ends, and a server with one of them keeps out the clients of the other exactly if they
are not; so passwords that differ and do not end in the code point zero keep out each other's
clients. -/
theorem passwords_share_secret_iff (password other : String) :
    (∀ fault, ofPassword password = .error fault ↔
      64 < (Utf8.encode password).length ∧
        fault = .passwordTooLong (Utf8.encode password).length) ∧
    ((Utf8.encode password).length ≤ 64 → ∃ secret, ofPassword password = .ok secret ∧
      ∀ candidate, secret.admits candidate = true ↔
        candidate = Utf8.encode password ++
          List.replicate (64 - (Utf8.encode password).length) 0) ∧
    ∀ secret secret', ofPassword password = .ok secret → ofPassword other = .ok secret' →
      (secret = secret' ↔ stem password = stem other) ∧
      (secret.KeepsOut secret' ↔ stem password ≠ stem other) ∧
      (password ≠ other → stem password = password → stem other = other →
        secret.KeepsOut secret' ∧ secret'.KeepsOut secret) := by
  refine ⟨fun fault => Secret.ofPassword_eq_error_iff, fun fits => ?_, ?_⟩
  · obtain ⟨secret, made⟩ := Secret.exists_ofPassword_iff.mpr fits
    have filled := (Secret.ofPassword_eq_ok_iff.mp made).2
    refine ⟨secret, made, fun candidate => ?_⟩
    rw [Secret.admits_iff, filled]
  · intro secret secret' made made'
    have same : secret = secret' ↔ stem password = stem other := Secret.eq_iff_stem_eq made made'
    refine ⟨same, Secret.keepsOut_iff.trans same.not, fun differ whole whole' => ?_⟩
    have apart : secret ≠ secret' := by
      intro shared
      have stems := same.mp shared
      rw [whole, whole'] at stems
      exact differ stems
    exact ⟨Secret.keepsOut apart, Secret.keepsOut apart.symm⟩

/-- A password of full length, with fewer characters than bytes. -/
def fullPassword : String := String.ofList (List.replicate 32 'é')

theorem passwords_share_secret_iff_framed :
    (Utf8.encode fullPassword).length ≤ 64 ∧
      ∃ full framed led plain,
        ofPassword fullPassword = .ok full ∧ full.admits (Utf8.encode fullPassword) = true ∧
        ofPassword "\x00p\x00" = .ok framed ∧ ofPassword "\x00p" = .ok led ∧
        ofPassword "p" = .ok plain ∧ framed = led ∧
        stem "\x00p" = "\x00p" ∧ stem "p" = "p" ∧ led.KeepsOut plain ∧ plain.KeepsOut led := by
  have fits : (Utf8.encode fullPassword).length ≤ 64 := by decide
  obtain ⟨full, hfull, admits⟩ := (passwords_share_secret_iff fullPassword "").2.1 fits
  obtain ⟨framed, hframed⟩ := Secret.exists_ofPassword_iff.mpr
    (show (Utf8.encode "\x00p\x00").length ≤ 64 by decide)
  obtain ⟨led, hled⟩ := Secret.exists_ofPassword_iff.mpr
    (show (Utf8.encode "\x00p").length ≤ 64 by decide)
  obtain ⟨plain, hplain⟩ := Secret.exists_ofPassword_iff.mpr
    (show (Utf8.encode "p").length ≤ 64 by decide)
  have shared := ((passwords_share_secret_iff "\x00p\x00" "\x00p").2.2 framed led hframed hled).1
  have apart := ((passwords_share_secret_iff "\x00p" "p").2.2 led plain hled hplain).2.2
  have wholeLed : stem "\x00p" = "\x00p" := by decide
  have wholePlain : stem "p" = "p" := by decide
  exact ⟨fits, full, framed, led, plain, hfull, (admits _).mpr (by decide), hframed, hled, hplain,
    shared.mpr (by decide), wholeLed, wholePlain, apart (by decide) wholeLed wholePlain⟩

end TunnelServer
