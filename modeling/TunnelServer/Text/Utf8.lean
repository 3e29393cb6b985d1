/-! # UTF-8

Text travels as its UTF-8 bytes. Decoding accepts exactly the bytes of some text; a lenient reading
replaces every ill-formed stretch by the replacement character.
-/

namespace TunnelServer.Utf8

def encode (text : String) : List UInt8 := text.toUTF8.data.toList

/-- The text whose UTF-8 bytes are given, if there is one. -/
def decode? (bytes : List UInt8) : Option String :=
  String.fromUTF8? ⟨bytes.toArray⟩

theorem decode?_encode (text : String) : decode? (encode text) = some text := by
  simp [decode?, encode, String.fromUTF8?, String.fromUTF8, text.isValidUTF8]

theorem eq_encode_of_decode? {bytes : List UInt8} {text : String}
    (h : decode? bytes = some text) : bytes = encode text := by
  unfold decode? String.fromUTF8? at h
  split at h
  · simp only [Option.some.injEq] at h
    subst h
    simp [encode, String.fromUTF8]
  · cases h

theorem decode?_eq_some_iff {bytes : List UInt8} {text : String} :
    decode? bytes = some text ↔ bytes = encode text :=
  ⟨eq_encode_of_decode?, fun h => h ▸ decode?_encode text⟩

theorem encode_injective {s t : String} (h : encode s = encode t) : s = t := by
  have hs := decode?_encode s
  rw [h, decode?_encode] at hs
  exact (Option.some.inj hs).symm

/-- What the first byte of a character says: how many bytes follow, and the range of the next. -/
def leadByte (b : UInt8) : Option (Nat × UInt8 × UInt8) :=
  if b < 0x80 then some (0, 0, 0)
  else if 0xC2 ≤ b ∧ b ≤ 0xDF then some (1, 0x80, 0xBF)
  else if b = 0xE0 then some (2, 0xA0, 0xBF)
  else if b = 0xED then some (2, 0x80, 0x9F)
  else if 0xE1 ≤ b ∧ b ≤ 0xEF then some (2, 0x80, 0xBF)
  else if b = 0xF0 then some (3, 0x90, 0xBF)
  else if 0xF1 ≤ b ∧ b ≤ 0xF3 then some (3, 0x80, 0xBF)
  else if b = 0xF4 then some (3, 0x80, 0x8F)
  else none

/-- How many further bytes continue a character of which `more` are still due. -/
def continuation : Nat → UInt8 → UInt8 → List UInt8 → Nat
  | more + 1, low, high, b :: rest =>
    if low ≤ b ∧ b ≤ high then continuation more 0x80 0xBF rest + 1 else 0
  | _, _, _, _ => 0

/-- Reads on where text is ill-formed: each longest beginning of a character that goes no further
is replaced by one replacement character. The first argument bounds the bytes left. -/
def lenientFrom : Nat → List UInt8 → List Char
  | 0, _ => []
  | _, [] => []
  | bound + 1, b :: rest =>
    match leadByte b with
    | none => '\uFFFD' :: lenientFrom bound rest
    | some (more, low, high) =>
      let found := continuation more low high rest
      let tail := lenientFrom bound (rest.drop found)
      if found = more then
        match decode? (b :: rest.take found) with
        | some text => text.toList ++ tail
        | none => '\uFFFD' :: tail
      else '\uFFFD' :: tail

/-- The text of any bytes, with replacement characters where they are no UTF-8. -/
def lenient (bytes : List UInt8) : String :=
  match decode? bytes with
  | some text => text
  | none => String.ofList (lenientFrom bytes.length bytes)

end TunnelServer.Utf8
