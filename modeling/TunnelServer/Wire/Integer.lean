/-! # Big-endian integers

Numbers travel with their most significant byte first. The two directions are inverse to each
other within the width of the field.
-/

namespace TunnelServer.Wire

/-- The lowest `width` bytes of a number, the most significant first. -/
def toBigEndian : Nat → Nat → List UInt8
  | 0, _ => []
  | width + 1, n => toBigEndian width (n / 256) ++ [UInt8.ofNat n]

/-- The number whose bytes are given, the most significant first. -/
def ofBigEndian (bytes : List UInt8) : Nat :=
  bytes.foldl (fun n b => n * 256 + b.toNat) 0

/-- How many numbers so many bytes can tell apart. -/
def span : Nat → Nat
  | 0 => 1
  | width + 1 => span width * 256

@[simp] theorem length_toBigEndian (width n : Nat) : (toBigEndian width n).length = width := by
  induction width generalizing n with
  | zero => rfl
  | succ width ih => simp [toBigEndian, ih]

theorem ofBigEndian_append_singleton (bytes : List UInt8) (b : UInt8) :
    ofBigEndian (bytes ++ [b]) = ofBigEndian bytes * 256 + b.toNat := by
  simp [ofBigEndian]

theorem ofBigEndian_toBigEndian (width n : Nat) :
    ofBigEndian (toBigEndian width n) = n % span width := by
  induction width generalizing n with
  | zero => rw [span, Nat.mod_one, toBigEndian, ofBigEndian, List.foldl_nil]
  | succ width ih =>
    rw [toBigEndian, ofBigEndian_append_singleton, ih, span, Nat.mul_comm (span width),
      Nat.mod_mul, UInt8.toNat_ofNat']
    omega

theorem ofBigEndian_lt (bytes : List UInt8) : ofBigEndian bytes < span bytes.length := by
  induction hn : bytes.length generalizing bytes with
  | zero =>
    rw [List.length_eq_zero_iff.mp hn]
    decide
  | succ n ih =>
    obtain rfl | ⟨init, b, rfl⟩ := List.eq_nil_or_concat bytes
    · simp at hn
    · have hi : init.length = n := by simpa using hn
      have hb := b.toNat_lt
      have low := ih init hi
      rw [List.concat_eq_append, ofBigEndian_append_singleton, span]
      omega

theorem toBigEndian_ofBigEndian (bytes : List UInt8) :
    toBigEndian bytes.length (ofBigEndian bytes) = bytes := by
  induction hn : bytes.length generalizing bytes with
  | zero => rw [List.length_eq_zero_iff.mp hn, toBigEndian]
  | succ n ih =>
    obtain rfl | ⟨init, b, rfl⟩ := List.eq_nil_or_concat bytes
    · simp at hn
    · have hi : init.length = n := by simpa using hn
      have hb := b.toNat_lt
      have high : (ofBigEndian init * 256 + b.toNat) / 256 = ofBigEndian init := by omega
      have low : UInt8.ofNat (ofBigEndian init * 256 + b.toNat) = b := by
        apply UInt8.toNat_inj.mp
        rw [UInt8.toNat_ofNat']
        omega
      rw [List.concat_eq_append, toBigEndian, ofBigEndian_append_singleton, high, low, ih init hi]

def encodeU16 (n : UInt16) : List UInt8 := toBigEndian 2 n.toNat

/-- A signed 32-bit number as four bytes, in two's complement. -/
def encodeI32 (n : Int32) : List UInt8 := toBigEndian 4 n.toUInt32.toNat

def decodeU16 (bytes : List UInt8) : UInt16 := UInt16.ofNat (ofBigEndian bytes)

/-- The signed 32-bit number that four bytes stand for. -/
def decodeI32 (bytes : List UInt8) : Int32 := (UInt32.ofNat (ofBigEndian bytes)).toInt32

theorem decodeU16_encodeU16 (n : UInt16) : decodeU16 (encodeU16 n) = n := by
  have bound : n.toNat < span 2 := n.toNat_lt
  rw [decodeU16, encodeU16, ofBigEndian_toBigEndian, Nat.mod_eq_of_lt bound, UInt16.ofNat_toNat]

theorem decodeI32_encodeI32 (n : Int32) : decodeI32 (encodeI32 n) = n := by
  have bound : n.toUInt32.toNat < span 4 := n.toUInt32.toNat_lt
  rw [decodeI32, encodeI32, ofBigEndian_toBigEndian, Nat.mod_eq_of_lt bound, UInt32.ofNat_toNat,
    Int32.toInt32_toUInt32]

theorem encodeU16_decodeU16 {bytes : List UInt8} (h : bytes.length = 2) :
    encodeU16 (decodeU16 bytes) = bytes := by
  have bound := ofBigEndian_lt bytes
  rw [h] at bound
  have width : (UInt16.ofNat (ofBigEndian bytes)).toNat = ofBigEndian bytes :=
    UInt16.toNat_ofNat_of_lt' bound
  rw [encodeU16, decodeU16, width, ← h, toBigEndian_ofBigEndian]

theorem encodeI32_decodeI32 {bytes : List UInt8} (h : bytes.length = 4) :
    encodeI32 (decodeI32 bytes) = bytes := by
  have bound := ofBigEndian_lt bytes
  rw [h] at bound
  have width : (UInt32.ofNat (ofBigEndian bytes)).toNat = ofBigEndian bytes :=
    UInt32.toNat_ofNat_of_lt' bound
  rw [encodeI32, decodeI32, UInt32.toUInt32_toInt32, width, ← h, toBigEndian_ofBigEndian]

@[simp] theorem length_encodeU16 (n : UInt16) : (encodeU16 n).length = 2 := length_toBigEndian ..

@[simp] theorem length_encodeI32 (n : Int32) : (encodeI32 n).length = 4 := length_toBigEndian ..

/-- Bytes after their number, as a string travels. -/
def frame (bytes : List UInt8) : List UInt8 := toBigEndian 2 bytes.length ++ bytes

end TunnelServer.Wire
