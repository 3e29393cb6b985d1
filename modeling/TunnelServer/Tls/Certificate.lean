import TunnelServer.Tls.Der

/-! # Certificates

A certificate says which public key its subject holds. It is read only as far as this needs: its
structure has to be right throughout, and it may not demand anything that is unknown here, but who
signed it, and for how long, does not matter.
-/

namespace TunnelServer.Tls

/-- What is wrong with a certificate. -/
inductive CertificateFault where
  | badEncoding
  | unsupportedVersion
  | signatureAlgorithmMismatch
  | unsupportedCriticalExtension
  | invalidExtensionValue
deriving DecidableEq, Repr

def CertificateFault.name : CertificateFault → String
  | .badEncoding => "BadEncoding"
  | .unsupportedVersion => "Other(OtherError(UnsupportedCertVersion))"
  | .signatureAlgorithmMismatch => "Other(OtherError(SignatureAlgorithmMismatch))"
  | .unsupportedCriticalExtension => "Other(OtherError(UnsupportedCriticalExtension))"
  | .invalidExtensionValue => "Other(OtherError(ExtensionValueInvalid))"

namespace Certificate

/-- A part of a certificate that is read, or the first fault in it. -/
abbrev Part := StateT (List UInt8) (Except CertificateFault)

def part (reader : Der.Reader α) (fault : CertificateFault) : Part α := fun bytes =>
  match reader bytes with
  | some result => .ok result
  | none => .error fault

def element (tag : UInt8) : Part (List UInt8) := part (Der.contents tag) .badEncoding

def whole (content : Part α) (fault : CertificateFault) (bytes : List UInt8) :
    Except CertificateFault α := do
  match ← content bytes with
  | (value, []) => return value
  | _ => throw fault

def inside (tag : UInt8) (content : Part α) (fault : CertificateFault) : Part α := do
  whole content fault (← part (Der.contents tag) fault)

/-! ## Extensions -/

inductive Extension where
  | keyUsage
  | alternativeName
  | basicConstraints
  | nameConstraints
  | revocationPoints
  | extendedKeyUsage
deriving DecidableEq, Repr

def Extension.ofName? : List UInt8 → Option Extension
  | [0x55, 0x1d, 15] => some .keyUsage
  | [0x55, 0x1d, 17] => some .alternativeName
  | [0x55, 0x1d, 19] => some .basicConstraints
  | [0x55, 0x1d, 30] => some .nameConstraints
  | [0x55, 0x1d, 31] => some .revocationPoints
  | [0x55, 0x1d, 37] => some .extendedKeyUsage
  | _ => none

/-- Whether an extension must be understood. Nothing at all means that it need not. -/
def critical : Part Bool := part (do
  if ← Der.nextIs Der.booleanTag then
    match ← Der.contents Der.booleanTag with
    | [0xff] => return true
    | [0x00] => return false
    | _ => failure
  else return false) .badEncoding

/-- Whether a known extension's value has the right form. It is a sequence, but for the usage of the
key. -/
def hasForm (extension : Extension) (value : List UInt8) : Bool :=
  extension = .keyUsage || (Der.whole (Der.contents Der.sequenceTag) value).isSome

/-- Takes in an extension. A known one may be there once, others have to be dispensable. -/
def takeIn (seen : List Extension) (name : List UInt8) (isCritical : Bool) (value : List UInt8) :
    Except CertificateFault (List Extension) :=
  match Extension.ofName? name with
  | none => if isCritical then .error .unsupportedCriticalExtension else .ok seen
  | some extension =>
    if extension ∈ seen then .error .invalidExtensionValue
    else if hasForm extension value then .ok (extension :: seen)
    else .error .badEncoding

def extension (seen : List Extension) : Part (List Extension) :=
  inside Der.sequenceTag (do
    let name ← element Der.nameTag
    let isCritical ← critical
    let value ← element Der.bytesTag
    takeIn seen name isCritical value) .badEncoding

/-- Extensions up to the end of some bytes. The number bounds how many there are. -/
def extensions : Nat → List Extension → Part Unit
  | 0, _ => return ()
  | bound + 1, seen => do
    if (← get).isEmpty then return ()
    else extensions bound (← extension seen)

/-- The optional part with the extensions, of which there may be none in it. -/
def extensionPart : Part Unit := do
  if (← get).isEmpty then return ()
  else
    inside (Der.partTag 3) (inside Der.sequenceTag (do extensions (← get).length [])
      .badEncoding) .badEncoding

/-! ## Certificates -/

/-- The version, which has to be the third. -/
def version : Part Unit :=
  inside (Der.partTag 0) (do
    let number ← part Der.natural .badEncoding
    if 255 < number then throw .badEncoding
    else if number ≠ 2 then throw .unsupportedVersion
    else return ()) .unsupportedVersion

/-- What is signed: the contents of the sequence that holds the subject's key. `algorithm` is the
one of the signature, which has to be named inside as well. -/
def body (algorithm : List UInt8) : Part (List UInt8) := do
  version
  let _serial ← element Der.integerTag
  if (← element Der.sequenceTag) ≠ algorithm then throw .signatureAlgorithmMismatch
  let _issuer ← element Der.sequenceTag
  let _validity ← element Der.sequenceTag
  let _subject ← element Der.sequenceTag
  let holder ← element Der.sequenceTag
  extensionPart
  return holder

/-- The outer structure: what is signed, the algorithm and the signature. -/
def envelope : Der.Reader (List UInt8 × List UInt8) := Der.inside Der.sequenceTag do
  let signed ← Der.contents Der.sequenceTag
  let algorithm ← Der.contents Der.sequenceTag
  let _signature ← Der.fullBits Der.bitsTag
  return (signed, algorithm)

def longest : Nat := 65538

def holder (bytes : List UInt8) : Except CertificateFault (List UInt8) :=
  match Der.whole envelope bytes with
  | none => .error .badEncoding
  | some (signed, algorithm) =>
    if longest < bytes.length then .error .badEncoding
    else whole (body algorithm) .badEncoding signed

end Certificate

end TunnelServer.Tls
