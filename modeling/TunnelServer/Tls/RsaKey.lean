import TunnelServer.Tls.PublicKey

/-! # RSA keys

A private key holds its two factors and some numbers that follow from them. It can be used if its
size is common and if the numbers are in their ranges and fit each other, as far as this can be told
without much work: whether the factors are primes, and whether the exponents undo each other, is
left open.
-/

namespace TunnelServer.Tls

structure RsaKey where
  modulus : Nat
  publicExponent : Nat
  privateExponent : Nat
  first : Nat
  second : Nat
  /-- The private exponent for the first factor, and for the second. -/
  firstExponent : Nat
  secondExponent : Nat
  /-- The inverse of the second factor modulo the first. -/
  inverse : Nat
deriving DecidableEq, Repr

namespace RsaKey

open TunnelServer.Modular (bitLength)

/-- Reads a key from its own format. A version that is not zero has more than two factors. -/
def reader : Der.Reader RsaKey := Der.inside Der.sequenceTag do
  guard ((← Der.natural) = 0)
  return ⟨← Der.natural, ← Der.natural, ← Der.natural, ← Der.natural, ← Der.natural,
    ← Der.natural, ← Der.natural, ← Der.natural⟩

/-- The least and the greatest size of a modulus in bits. The least is one that needs as many bytes
as 2048 bits do. -/
def modulusSizes : Nat × Nat := (2041, 4096)

def hasUsablePublicHalf (key : RsaKey) : Bool :=
  key.modulus % 2 = 1 && modulusSizes.1 ≤ bitLength key.modulus &&
    bitLength key.modulus ≤ modulusSizes.2 &&
    key.publicExponent % 2 = 1 && 65537 ≤ key.publicExponent && key.publicExponent < 0x200000000

/-- Half the size of the modulus, which is the size of each factor. -/
def factorSize (key : RsaKey) : Nat := (bitLength key.modulus + 1) / 2

/-- What the size of a factor in bits is a multiple of. -/
def factorStep : Nat := 512

/-- Whether the factors have the right size and divide the modulus. -/
def hasFittingFactors (key : RsaKey) : Bool :=
  key.factorSize % factorStep = 0 && key.first % 2 = 1 && key.second % 2 = 1 &&
    bitLength key.first = key.factorSize && bitLength key.second = key.factorSize &&
    key.first * key.second % key.modulus = 0

/-- Whether the private exponents are odd and in their ranges, and the inverse is one. -/
def hasFittingExponents (key : RsaKey) : Bool :=
  key.privateExponent % 2 = 1 && key.factorSize < bitLength key.privateExponent &&
    key.privateExponent < key.modulus &&
    key.firstExponent % 2 = 1 && key.firstExponent < key.first &&
    key.secondExponent % 2 = 1 && key.secondExponent < key.second &&
    key.inverse < key.first && key.inverse * key.second % key.first = 1

def isUsable (key : RsaKey) : Bool :=
  key.hasUsablePublicHalf && key.hasFittingFactors && key.hasFittingExponents

def publicKey (key : RsaKey) : PublicKey where
  algorithm := Algorithm.rsa
  key := Der.element Der.sequenceTag (Der.integer key.modulus ++ Der.integer key.publicExponent)

def publicKey? (bytes : List UInt8) : Option PublicKey := do
  let key ← Der.whole reader bytes
  guard key.isUsable
  return key.publicKey

end RsaKey

end TunnelServer.Tls
