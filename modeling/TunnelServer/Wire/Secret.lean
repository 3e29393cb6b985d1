import TunnelServer.Text.Utf8
import TunnelServer.Wire.Error

/-! # The shared secret

A password is sent as a field of fixed length: its UTF-8 bytes followed by zeros.
-/

namespace TunnelServer

/-- The shared secret in the form in which it is sent. -/
structure Secret where
  bytes : List UInt8
  length_bytes : bytes.length = 64
deriving DecidableEq

namespace Secret

def length : Nat := 64

/-- The secret of a password: its bytes, filled up with zeros. A password that does not fit is
refused. -/
def ofPassword (password : String) : Except ProtocolError Secret :=
  let bytes := Utf8.encode password
  if h : bytes.length ≤ length then
    .ok ⟨bytes ++ List.replicate (length - bytes.length) 0, by
      simp only [List.length_append, List.length_replicate]; unfold length at *; omega⟩
  else .error (.passwordTooLong bytes.length)

/-- A candidate passes if it equals the secret byte for byte. -/
def admits (secret : Secret) (candidate : List UInt8) : Bool := secret.bytes == candidate

def redacted : String := "Secret(..)"

theorem admits_iff {secret : Secret} {candidate : List UInt8} :
    secret.admits candidate = true ↔ candidate = secret.bytes := by
  rw [admits, beq_iff_eq]
  exact eq_comm

end Secret

end TunnelServer
