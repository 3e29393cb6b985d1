import TunnelServer.Proofs.Handshake.Sharing

/-!
# Clients that know no password

A configuration needs a password, so that a client has something to know. One that is made of the
code point zero alone is as good as none: it passes the check, and yet every client that fills the
field for the secret with zeros is let in. With any other password no such client is.
-/

namespace TunnelServer

open Source (Brings)

/-- A client that greets and then sends zeros for the secret, and anything after that. -/
structure SendsZeros (script : List Event) (hello : List UInt8) : Prop where
  fits : hello.length < 65536
  brings : ∃ tail rest, Brings tail script (Wire.frame hello ++ (Secret.blank.bytes ++ rest))

/-- No client that sends zeros for the secret learns that it was let in, at any time. -/
def Secret.KeepsZerosOut (secret : Secret) : Prop :=
  ∀ script hello, SendsZeros script hello → ∀ readTimeout start plan log destination,
    (authenticate secret readTimeout ⟨start, .ofScript script, .ofPlan plan, log⟩).1 ≠
      .ok destination

theorem sendsZeros_iff {script : List Event} {hello : List UInt8} :
    SendsZeros script hello ↔ Presents .blank script hello :=
  ⟨fun h => ⟨h.fits, h.brings⟩, fun h => ⟨h.fits, h.brings⟩⟩

theorem Secret.keepsZerosOut_iff {secret : Secret} : secret.KeepsZerosOut ↔ secret ≠ .blank := by
  have same : secret.KeepsZerosOut ↔ secret.KeepsOut .blank := by
    simp only [KeepsZerosOut, KeepsOut, sendsZeros_iff]
  exact same.trans keepsOut_iff

/-- All that a client has to know of a server with a blank secret. -/
def zeroRequest : List UInt8 :=
  introduction [] .blank 0 ++ (Wire.frame (Utf8.encode "a") ++ Wire.encodeU16 443)

theorem sendsZeros_drip : SendsZeros (Source.drip zeroRequest) [] :=
  sendsZeros_iff.mpr (Secret.presents_drip .blank)

theorem authenticate_blank (readTimeout start : Nat) :
    (authenticate .blank readTimeout
      ⟨start, .ofScript (Source.drip zeroRequest), .ofPlan .unrestricted, []⟩).1 =
      .ok ⟨"a", 443⟩ :=
  Secret.authenticate_request .blank readTimeout start

/-- A valid configuration has a secret. It is another one than that of an empty password, and keeps
out whoever sends zeros for it, exactly if the password has a character besides the code point
zero. -/
theorem zeros_kept_out_iff {config : ServerConfig} (valid : config.validate = .ok ()) :
    ∃ secret, config.secret = .ok secret ∧
      (Secret.ofPassword "" ≠ .ok secret ↔ ∃ c ∈ config.password.toList, c ≠ '\x00') ∧
      (secret.KeepsZerosOut ↔ ∃ c ∈ config.password.toList, c ≠ '\x00') := by
  obtain ⟨-, -, -, -, secret, made⟩ := ServerConfig.validate_eq_ok_iff.mp valid
  have blank : secret ≠ .blank ↔ ∃ c ∈ config.password.toList, c ≠ '\x00' := by
    rw [ne_eq, Secret.eq_blank_iff made]
    simp
  have empty : Secret.ofPassword "" ≠ .ok secret ↔ secret ≠ .blank := by
    rw [Secret.ofPassword_empty, ne_eq, ne_eq, Except.ok.injEq, eq_comm]
  exact ⟨secret, made, empty.trans blank, Secret.keepsZerosOut_iff.trans blank⟩

/-- A password with zeros at both ends. -/
def framedByZeros : ServerConfig :=
  { ServerConfig.standard with password := "\x00p\x00", port := 443 }

theorem zeros_kept_out_iff_framedByZeros :
    framedByZeros.validate = .ok () ∧
      ∃ secret, framedByZeros.secret = .ok secret ∧ secret.KeepsZerosOut := by
  have valid : framedByZeros.validate = .ok () := rfl
  obtain ⟨secret, made, -, safe⟩ := zeros_kept_out_iff valid
  exact ⟨valid, secret, made, safe.mpr ⟨'p', by decide, by decide⟩⟩

/-- A password that is nothing but the code point zero. -/
def onlyZero : ServerConfig := { ServerConfig.standard with password := "\x00", port := 443 }

/-- The check lets such a password pass, and the server then lets in a client that sends zeros. -/
theorem zeros_let_in : onlyZero.validate = .ok () ∧ onlyZero.secret = Secret.ofPassword "" ∧
    ∃ secret, onlyZero.secret = .ok secret ∧ SendsZeros (Source.drip zeroRequest) [] ∧
      (authenticate secret 10000
        ⟨0, .ofScript (Source.drip zeroRequest), .ofPlan .unrestricted, []⟩).1 =
        .ok ⟨"a", 443⟩ :=
  ⟨rfl, rfl, .blank, rfl, sendsZeros_drip, authenticate_blank 10000 0⟩

end TunnelServer
