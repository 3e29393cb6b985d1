import TunnelServer.Tls.Certificate
import TunnelServer.Tls.PrivateKey

/-! # The identity of the server

A server shows a certificate chain and signs with the private key of its first certificate. The
two are checked to belong together: the public half of the key has to be the one in the
certificate. Only one combination of algorithms is offered.
-/

namespace TunnelServer.Tls

/-- A certificate chain and the key that belongs to its first certificate. -/
structure Identity where
  chain : List (List UInt8)
  key : PrivateKey

def suites : List String := ["TLS_ECDHE_RSA_WITH_AES_128_GCM_SHA256"]

/-- Puts a chain and a key together, if they belong together. The key is looked at first. -/
def Identity.make (chain : List (List UInt8)) (key : PrivateKey) :
    Except SetupError Identity :=
  match key.publicKey? with
  | none =>
    .error (.tls "unexpected error: failed to parse private key as RSA, ECDSA, or EdDSA")
  | some mine =>
    match Certificate.holder (chain.headD []) with
    | .error fault => .error (.tls ("invalid peer certificate: " ++ fault.name))
    | .ok holder =>
      if holder = mine.encode then .ok ⟨chain, key⟩
      else .error (.tls "keys may not be consistent: KeyMismatch")

/-- What loading an identity gives: what was logged, and the identity or why there is none. -/
structure IdentityLoad where
  log : List LogLine
  result : Except SetupError Identity

def Identity.load (files : FileSystem) (certPath keyPath : String) : IdentityLoad :=
  match loadChain files certPath with
  | .error cause => ⟨[], .error cause⟩
  | .ok chain => ⟨[chainLoaded chain certPath], do make chain (← loadKey files keyPath)⟩

end TunnelServer.Tls
