import TunnelServer.Tls.Der

/-! # Public keys

A public key is written with the name of its algorithm and the parameters of it, in the form in
which certificates hold the keys of their subjects.
-/

namespace TunnelServer.Tls

/-- A public key. The algorithm is the contents of the sequence that names it. -/
structure PublicKey where
  algorithm : List UInt8
  key : List UInt8
deriving DecidableEq, Repr

/-- What stands in the sequence that a certificate has for the key. -/
def PublicKey.encode (key : PublicKey) : List UInt8 :=
  Der.element Der.sequenceTag key.algorithm ++ Der.bits key.key

namespace Algorithm

/-- The name of RSA, and no parameters. -/
def rsa : List UInt8 :=
  Der.element Der.nameTag [0x2a, 0x86, 0x48, 0x86, 0xf7, 0x0d, 0x01, 0x01, 0x01] ++
    Der.element 0x05 []

def p256 : List UInt8 := Der.element Der.nameTag [0x2a, 0x86, 0x48, 0xce, 0x3d, 0x03, 0x01, 0x07]

def p384 : List UInt8 := Der.element Der.nameTag [0x2b, 0x81, 0x04, 0x00, 0x22]

/-- The name of keys on a curve, with the name of the curve. -/
def curve (name : List UInt8) : List UInt8 :=
  Der.element Der.nameTag [0x2a, 0x86, 0x48, 0xce, 0x3d, 0x02, 0x01] ++ name

/-- The name of keys on the twisted curve of 255 bits. -/
def edwards : List UInt8 := Der.element Der.nameTag [0x2b, 0x65, 0x70]

end Algorithm

end TunnelServer.Tls
