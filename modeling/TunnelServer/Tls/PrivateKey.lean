import TunnelServer.Crypto.Edwards
import TunnelServer.Crypto.Weierstrass
import TunnelServer.Tls.Credentials
import TunnelServer.Tls.RsaKey

/-! # Usable private keys

A private key is of use if it is for RSA, for one of two curves in the short form, or for the
twisted curve. Its public half is computed from it, and where the key comes with a public half, that
has to be the same.
-/

namespace TunnelServer.Tls

/-! ## The format that names the algorithm -/

/-- A key in the format that names its algorithm. -/
structure NamedKey where
  key : List UInt8
  /-- The public half, which only the second version of the format has. -/
  publicHalf : Option (List UInt8)
deriving DecidableEq

/-- The public half in the second version. An older way to mark it is taken, too. -/
def publicHalfReader : Der.Reader (List UInt8) := do
  if ← Der.nextIs (Der.partTag 1) then Der.inside (Der.partTag 1) (Der.fullBits Der.bitsTag)
  else Der.fullBits (Der.plainPartTag 1)

/-- Reads a key for an algorithm. There may be attributes behind it, which do not matter. -/
def NamedKey.reader (algorithm : List UInt8) (lastVersion : Nat) : Der.Reader NamedKey :=
  Der.inside Der.sequenceTag do
    let version ← Der.natural
    guard (version ≤ lastVersion)
    guard ((← Der.contents Der.sequenceTag) = algorithm)
    let key ← Der.contents Der.bytesTag
    if ← Der.nextIs (Der.partTag 0) then let _ ← Der.contents (Der.partTag 0)
    if version = 0 then return ⟨key, none⟩
    else return ⟨key, some (← publicHalfReader)⟩

/-! ## Keys on a curve in the short form -/

/-- A curve and the name it goes by. -/
structure NamedCurve where
  name : List UInt8
  curve : Weierstrass.Curve

def NamedCurve.all : List NamedCurve :=
  [⟨Algorithm.p256, .p256⟩, ⟨Algorithm.p384, .p384⟩]

/-- Reads the private and the public half of a key on a curve from their own format. The curve need
not be named. -/
def curveKeyReader (name : List UInt8) : Der.Reader (List UInt8 × List UInt8) :=
  Der.inside Der.sequenceTag do
    guard ((← Der.natural) = 1)
    let secret ← Der.contents Der.bytesTag
    if ← Der.nextIs (Der.partTag 0) then guard ((← Der.contents (Der.partTag 0)) = name)
    return (secret, ← Der.inside (Der.partTag 1) (Der.fullBits Der.bitsTag))

/-- The public half of a key on a curve. It comes with the key and has to belong to it. -/
def NamedCurve.publicKey? (named : NamedCurve) (bytes : List UInt8) : Option PublicKey := do
  let (secret, stated) ← Der.whole (curveKeyReader named.name) bytes
  guard ((← named.curve.publicKey? secret) = stated)
  return ⟨Algorithm.curve named.name, stated⟩

/-! ## Keys on the twisted curve -/

/-- The public half of a key on the twisted curve. If it comes with the key, it has to belong
to it. -/
def edwardsPublicKey? (named : NamedKey) : Option PublicKey := do
  let key ← Edwards.publicKey? (← Der.whole (Der.contents Der.bytesTag) named.key)
  guard (named.publicHalf.all (· = key))
  return ⟨Algorithm.edwards, key⟩

/-! ## All of them -/

/-- The public half of a key in the format that names the algorithm. -/
def namedPublicKey? (bytes : List UInt8) : Option PublicKey :=
  let read (algorithm : List UInt8) (lastVersion : Nat) : Option NamedKey :=
    Der.whole (NamedKey.reader algorithm lastVersion) bytes
  let curveKey (named : NamedCurve) : Option PublicKey := do
    named.publicKey? (← read (Algorithm.curve named.name) 0).key
  (do RsaKey.publicKey? (← read Algorithm.rsa 0).key) <|>
    NamedCurve.all.findSome? curveKey <|>
    (do edwardsPublicKey? (← read Algorithm.edwards 1))

/-- The public half of a private key that can be used. -/
def PrivateKey.publicKey? (key : PrivateKey) : Option PublicKey :=
  match key.format with
  | .pkcs1 => RsaKey.publicKey? key.bytes
  | .sec1 => NamedCurve.all.findSome? fun named => named.publicKey? key.bytes
  | .pkcs8 => namedPublicKey? key.bytes

end TunnelServer.Tls
