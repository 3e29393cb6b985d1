import Mathlib.Algebra.Group.Nat.Defs
import TunnelServer.Text.Base64

/-!
# What base64 text stands for

The bits of the symbols of a text, six for each, are the bits of the bytes that it stands for, eight
for each, and fewer than six more. A text is decoded exactly if it stands for some bytes, and then
to these, whether it is padded or not and wherever blanks stand in it.
-/

namespace TunnelServer.Base64

/-! ## Bits -/

/-- The lowest bits of a number, the most significant first. -/
def bits : Nat → Nat → List Bool
  | 0, _ => []
  | width + 1, n => bits width (n / 2) ++ [decide (n % 2 = 1)]

@[simp] theorem length_bits (width n : Nat) : (bits width n).length = width := by
  induction width generalizing n with
  | zero => rfl
  | succ width ih => simp [bits, ih]

theorem bits_eq_iff {width m n : Nat} :
    bits width m = bits width n ↔ m % 2 ^ width = n % 2 ^ width := by
  induction width generalizing m n with
  | zero => simp [bits, Nat.mod_one]
  | succ width ih =>
    have last : decide (m % 2 = 1) = decide (n % 2 = 1) ↔ m % 2 = n % 2 := by
      rw [decide_eq_decide]
      omega
    have split (k : Nat) : k % 2 ^ (width + 1) = k % 2 + 2 * (k / 2 % 2 ^ width) := by
      rw [Nat.pow_succ, Nat.mul_comm, Nat.mod_mul]
    rw [bits, bits, List.append_singleton_inj, ih, last, split, split]
    omega

theorem bits_add (m n value : Nat) :
    bits (m + n) value = bits m (value / 2 ^ n) ++ bits n value := by
  induction n generalizing value with
  | zero => simp [bits]
  | succ n ih =>
    rw [← Nat.add_assoc, bits, ih, bits, List.append_assoc, Nat.div_div_eq_div_mul, Nat.pow_succ,
      Nat.mul_comm 2]

theorem bits_append (m : Nat) {n value : Nat} (front : Nat) (h : value < 2 ^ n) :
    bits m front ++ bits n value = bits (m + n) (front * 2 ^ n + value) := by
  have high : (front * 2 ^ n + value) / 2 ^ n = front := by
    rw [Nat.add_comm, Nat.add_mul_div_right _ _ (Nat.two_pow_pos n), Nat.div_eq_of_lt h,
      Nat.zero_add]
  have low : bits n (front * 2 ^ n + value) = bits n value := by
    rw [bits_eq_iff, Nat.mul_add_mod_self_right]
  rw [bits_add, high, low]

theorem eq_of_bits_eight {a b : UInt8} (h : bits 8 a.toNat = bits 8 b.toNat) : a = b := by
  have same := bits_eq_iff.mp h
  have ha := a.toNat_lt
  have hb := b.toNat_lt
  apply UInt8.toNat_inj.mp
  omega

theorem bits_low (n : Nat) : bits 8 (low n).toNat = bits 8 n := by
  rw [bits_eq_iff, low, UInt8.toNat_ofNat', Nat.mod_mod]

/-! ## Symbols and bytes -/

/-- The bytes whose bits are those of symbols, as many as there are. -/
def octets : List Nat → List UInt8
  | a :: b :: c :: d :: rest =>
    low (a * 4 + b / 16) :: low (b * 16 + c / 4) :: low (c * 64 + d) :: octets rest
  | [a, b, c] => [low (a * 4 + b / 16), low (b * 16 + c / 4)]
  | [a, b] => [low (a * 4 + b / 16)]
  | [_] => []
  | [] => []

/-- The bits of symbols are those of bytes, and fewer than six more. -/
def Holds (symbols : List Nat) (bytes : List UInt8) : Prop :=
  ∃ spare : List Bool, spare.length < 6 ∧
    symbols.flatMap (bits 6) = bytes.flatMap (fun b => bits 8 b.toNat) ++ spare

variable {symbols : List Nat} {bytes text : List UInt8} {a b c d : Nat}

theorem bits_two (hb : b < 64) :
    bits 6 a ++ bits 6 b = bits 8 (low (a * 4 + b / 16)).toNat ++ bits 4 b := by
  have high : b / 2 ^ 4 < 2 ^ 2 := by omega
  rw [bits_low, bits_add 2 4 b, ← List.append_assoc, bits_append 6 a high]
  rfl

theorem bits_three (hc : c < 64) :
    bits 4 b ++ bits 6 c = bits 8 (low (b * 16 + c / 4)).toNat ++ bits 2 c := by
  have high : c / 2 ^ 2 < 2 ^ 4 := by omega
  rw [bits_low, bits_add 4 2 c, ← List.append_assoc, bits_append 4 b high]
  rfl

theorem bits_four (hd : d < 64) :
    bits 2 c ++ bits 6 d = bits 8 (low (c * 64 + d)).toNat := by
  rw [bits_low, bits_append 2 c hd]
  rfl

theorem bits_group (hb : b < 64) (hc : c < 64) (hd : d < 64) :
    bits 6 a ++ bits 6 b ++ bits 6 c ++ bits 6 d =
      bits 8 (low (a * 4 + b / 16)).toNat ++ bits 8 (low (b * 16 + c / 4)).toNat ++
        bits 8 (low (c * 64 + d)).toNat := by
  rw [bits_two hb, List.append_assoc _ (bits 4 b), bits_three hc, ← List.append_assoc,
    List.append_assoc _ (bits 2 c), bits_four hd]

theorem holds_octets (small : ∀ symbol ∈ symbols, symbol < 64) (whole : symbols.length % 4 ≠ 1) :
    Holds symbols (octets symbols) := by
  fun_induction octets symbols with
  | case1 a b c d rest ih =>
    simp only [List.forall_mem_cons] at small
    obtain ⟨-, hb, hc, hd, small⟩ := small
    have rest_whole : rest.length % 4 ≠ 1 := by
      simp only [List.length_cons] at whole
      omega
    obtain ⟨spare, few, same⟩ := ih small rest_whole
    refine ⟨spare, few, ?_⟩
    have group := congrArg (· ++ rest.flatMap (bits 6)) (bits_group (a := a) hb hc hd)
    simpa only [List.flatMap_cons, List.append_assoc, same] using group
  | case2 a b c =>
    simp only [List.forall_mem_cons] at small
    obtain ⟨-, hb, hc, -⟩ := small
    refine ⟨bits 2 c, by simp, ?_⟩
    have group := congrArg (· ++ bits 6 c) (bits_two (a := a) hb)
    simpa [bits_three hc] using group
  | case3 a b =>
    simp only [List.forall_mem_cons] at small
    obtain ⟨-, hb, -⟩ := small
    exact ⟨bits 4 b, by simp, by simp [bits_two hb]⟩
  | case4 => exact absurd rfl whole
  | case5 => exact ⟨[], by simp, rfl⟩

/-- Bits, eight for each byte and fewer than eight more, are those of no other bytes. -/
theorem eq_of_flatMap_bits {other : List UInt8} {spare rest : List Bool} (few : spare.length < 8)
    (few' : rest.length < 8)
    (same : bytes.flatMap (fun b => bits 8 b.toNat) ++ spare =
      other.flatMap (fun b => bits 8 b.toNat) ++ rest) : bytes = other := by
  induction bytes generalizing other with
  | nil =>
    cases other with
    | nil => rfl
    | cons b other =>
      have long := congrArg List.length same
      simp at long
      omega
  | cons a bytes ih =>
    cases other with
    | nil =>
      have long := congrArg List.length same
      simp at long
      omega
    | cons b other =>
      simp only [List.flatMap_cons, List.append_assoc] at same
      obtain ⟨first, later⟩ := List.append_inj same (by simp)
      rw [eq_of_bits_eight first, ih later]

theorem Holds.unique {other : List UInt8} (h : Holds symbols bytes) (ho : Holds symbols other) :
    bytes = other := by
  obtain ⟨spare, few, same⟩ := h
  obtain ⟨rest, few', same'⟩ := ho
  exact eq_of_flatMap_bits (by omega) (by omega) (same.symm.trans same')

theorem Holds.whole (h : Holds symbols bytes) : symbols.length % 4 ≠ 1 := by
  obtain ⟨spare, few, same⟩ := h
  have lengths := congrArg List.length same
  have six : (symbols.flatMap (bits 6)).length = symbols.length * 6 := by
    simp [List.length_flatMap, List.map_const']
  have eight : (bytes.flatMap fun b => bits 8 b.toNat).length = bytes.length * 8 := by
    simp [List.length_flatMap, List.map_const']
  rw [List.length_append, six, eight] at lengths
  omega

/-! ## Text -/

/-- Symbols are spelled by their characters, perhaps with padding up to a multiple of four. -/
structure Spelled (symbols : List Nat) (padding : Nat) (text : List UInt8) : Prop where
  small : ∀ symbol ∈ symbols, symbol < 64
  padded : padding = 0 ∨ padding ≤ 2 ∧ (symbols.length + padding) % 4 = 0
  written : text = symbols.map character ++ List.replicate padding Base64.padding

/-- The bytes that a text stands for, whatever blanks are in it. -/
def Denotes (text bytes : List UInt8) : Prop :=
  ∃ symbols padding, Spelled symbols padding (text.filter fun c => !isBlank c) ∧
    Holds symbols bytes

theorem value?_character (h : a < 64) : value? (character a) = some a := by
  have all : ∀ n : Fin 64, value? (character n.val) = some n.val := by decide
  exact all ⟨a, h⟩

theorem value?_eq_some_iff {c : UInt8} : value? c = some a ↔ a < 64 ∧ c = character a := by
  constructor
  · intro h
    have all : ∀ n : Fin 256, ∀ v ∈ value? (UInt8.ofNat n.val),
        v < 64 ∧ UInt8.ofNat n.val = character v := by decide +kernel
    have found := all ⟨c.toNat, c.toNat_lt⟩ a
    rw [UInt8.ofNat_toNat] at found
    exact found h
  · rintro ⟨small, rfl⟩
    exact value?_character small

theorem character_ne_padding (h : a < 64) : character a ≠ padding := by
  intro same
  have found := value?_character h
  rw [same] at found
  cases found

/-! ## Decoding -/

theorem decodeTwo?_eq_some_iff {x y : UInt8} : decodeTwo? x y = some bytes ↔
    ∃ a b, value? x = some a ∧ value? y = some b ∧ bytes = octets [a, b] := by
  simp only [decodeTwo?, Option.bind_eq_bind, Option.bind_eq_some_iff, Option.pure_def,
    Option.some.injEq, octets, exists_and_left, eq_comm (a := bytes)]

theorem decodeThree?_eq_some_iff {x y z : UInt8} : decodeThree? x y z = some bytes ↔
    ∃ a b c, value? x = some a ∧ value? y = some b ∧ value? z = some c ∧
      bytes = octets [a, b, c] := by
  simp only [decodeThree?, Option.bind_eq_bind, Option.bind_eq_some_iff, Option.pure_def,
    Option.some.injEq, decodeTwo?_eq_some_iff]
  constructor
  · rintro ⟨b, hb, c, hc, _, ⟨a, b', ha, hb', rfl⟩, rfl⟩
    obtain rfl := Option.some.inj (hb.symm.trans hb')
    exact ⟨a, b, c, ha, hb, hc, rfl⟩
  · rintro ⟨a, b, c, ha, hb, hc, rfl⟩
    exact ⟨b, hb, c, hc, _, ⟨a, b, ha, hb, rfl⟩, rfl⟩

theorem decodeFour?_eq_some_iff {x y z w : UInt8} : decodeFour? x y z w = some bytes ↔
    ∃ a b c d, value? x = some a ∧ value? y = some b ∧ value? z = some c ∧ value? w = some d ∧
      bytes = octets [a, b, c, d] := by
  simp only [decodeFour?, Option.bind_eq_bind, Option.bind_eq_some_iff, Option.pure_def,
    Option.some.injEq, decodeThree?_eq_some_iff]
  constructor
  · rintro ⟨c, hc, d, hd, _, ⟨a, b, c', ha, hb, hc', rfl⟩, rfl⟩
    obtain rfl := Option.some.inj (hc.symm.trans hc')
    exact ⟨a, b, c, d, ha, hb, hc, hd, rfl⟩
  · rintro ⟨a, b, c, d, ha, hb, hc, hd, rfl⟩
    exact ⟨c, hc, d, hd, _, ⟨a, b, c, ha, hb, hc, rfl⟩, rfl⟩

theorem decodeGroups?_of_spelled {pad : Nat} (h : Spelled symbols pad text)
    (whole : symbols.length % 4 ≠ 1) : decodeGroups? text = some (octets symbols) := by
  obtain ⟨small, padded, rfl⟩ := h
  fun_induction octets symbols with
  | case1 a b c d rest ih =>
    simp only [List.forall_mem_cons] at small
    obtain ⟨ha, hb, hc, hd, small⟩ := small
    simp only [List.length_cons] at whole padded
    have later := ih (by omega) small (by omega)
    have group : decodeFour? (character a) (character b) (character c) (character d) =
        some (octets [a, b, c, d]) :=
      decodeFour?_eq_some_iff.mpr ⟨a, b, c, d, value?_character ha, value?_character hb,
        value?_character hc, value?_character hd, rfl⟩
    simp only [List.map_cons, List.cons_append]
    generalize rest.map character ++ List.replicate pad padding = tail at later
    cases tail with
    | nil =>
      have none : octets rest = [] := by simpa [decodeGroups?, decodeLast?] using later.symm
      simpa [decodeGroups?, decodeLast?, character_ne_padding hd, none, octets] using group
    | cons e tail =>
      rw [decodeGroups?, group, later]
      rfl
  | case2 a b c =>
    simp only [List.forall_mem_cons] at small
    obtain ⟨ha, hb, hc, -⟩ := small
    have group : decodeThree? (character a) (character b) (character c) =
        some (octets [a, b, c]) :=
      decodeThree?_eq_some_iff.mpr ⟨a, b, c, value?_character ha, value?_character hb,
        value?_character hc, rfl⟩
    simp only [List.length_cons, List.length_nil] at padded
    obtain rfl | rfl : pad = 0 ∨ pad = 1 := by omega
    · exact group
    · simpa [decodeGroups?, decodeLast?, character_ne_padding hc, octets] using group
  | case3 a b =>
    simp only [List.forall_mem_cons] at small
    obtain ⟨ha, hb, -⟩ := small
    have group : decodeTwo? (character a) (character b) = some (octets [a, b]) :=
      decodeTwo?_eq_some_iff.mpr ⟨a, b, value?_character ha, value?_character hb, rfl⟩
    simp only [List.length_cons, List.length_nil] at padded
    obtain rfl | rfl : pad = 0 ∨ pad = 2 := by omega
    · exact group
    · simpa [decodeGroups?, decodeLast?, List.replicate, octets] using group
  | case4 => exact absurd rfl whole
  | case5 =>
    simp only [List.length_nil] at padded
    obtain rfl : pad = 0 := by omega
    rfl

theorem exists_spelled_two {x y : UInt8} (h : decodeTwo? x y = some bytes) : ∃ symbols : List Nat,
    symbols.length = 2 ∧ (∀ symbol ∈ symbols, symbol < 64) ∧ symbols.map character = [x, y] ∧
      bytes = octets symbols := by
  obtain ⟨a, b, ha, hb, rfl⟩ := decodeTwo?_eq_some_iff.mp h
  obtain ⟨smallA, rfl⟩ := value?_eq_some_iff.mp ha
  obtain ⟨smallB, rfl⟩ := value?_eq_some_iff.mp hb
  exact ⟨[a, b], rfl, by simp [smallA, smallB], rfl, rfl⟩

theorem exists_spelled_three {x y z : UInt8} (h : decodeThree? x y z = some bytes) :
    ∃ symbols : List Nat, symbols.length = 3 ∧ (∀ symbol ∈ symbols, symbol < 64) ∧
      symbols.map character = [x, y, z] ∧ bytes = octets symbols := by
  obtain ⟨a, b, c, ha, hb, hc, rfl⟩ := decodeThree?_eq_some_iff.mp h
  obtain ⟨smallA, rfl⟩ := value?_eq_some_iff.mp ha
  obtain ⟨smallB, rfl⟩ := value?_eq_some_iff.mp hb
  obtain ⟨smallC, rfl⟩ := value?_eq_some_iff.mp hc
  exact ⟨[a, b, c], rfl, by simp [smallA, smallB, smallC], rfl, rfl⟩

theorem exists_spelled_four {x y z w : UInt8} (h : decodeFour? x y z w = some bytes) :
    ∃ a b c d, (∀ symbol ∈ [a, b, c, d], symbol < 64) ∧ [a, b, c, d].map character = [x, y, z, w] ∧
      bytes = octets [a, b, c, d] := by
  obtain ⟨a, b, c, d, ha, hb, hc, hd, rfl⟩ := decodeFour?_eq_some_iff.mp h
  obtain ⟨smallA, rfl⟩ := value?_eq_some_iff.mp ha
  obtain ⟨smallB, rfl⟩ := value?_eq_some_iff.mp hb
  obtain ⟨smallC, rfl⟩ := value?_eq_some_iff.mp hc
  obtain ⟨smallD, rfl⟩ := value?_eq_some_iff.mp hd
  exact ⟨a, b, c, d, by simp [smallA, smallB, smallC, smallD], rfl, rfl⟩

theorem exists_spelled_last (h : decodeLast? text = some bytes) : ∃ symbols pad,
    Spelled symbols pad text ∧ symbols.length % 4 ≠ 1 ∧ bytes = octets symbols := by
  unfold decodeLast? at h
  split at h
  · cases h
    exact ⟨[], 0, ⟨by simp, .inl rfl, rfl⟩, by decide, rfl⟩
  · obtain ⟨symbols, two, small, written, rfl⟩ := exists_spelled_two h
    exact ⟨symbols, 0, ⟨small, .inl rfl, by simp [written]⟩, by omega, rfl⟩
  · obtain ⟨symbols, three, small, written, rfl⟩ := exists_spelled_three h
    exact ⟨symbols, 0, ⟨small, .inl rfl, by simp [written]⟩, by omega, rfl⟩
  · split at h
    · rename_i ends
      subst ends
      split at h
      · rename_i ends
        subst ends
        obtain ⟨symbols, two, small, written, rfl⟩ := exists_spelled_two h
        exact ⟨symbols, 2, ⟨small, .inr (by omega), by simp [written]⟩, by omega, rfl⟩
      · obtain ⟨symbols, three, small, written, rfl⟩ := exists_spelled_three h
        exact ⟨symbols, 1, ⟨small, .inr (by omega), by simp [written]⟩, by omega, rfl⟩
    · obtain ⟨a, b, c, d, small, written, rfl⟩ := exists_spelled_four h
      exact ⟨[a, b, c, d], 0, ⟨small, .inl rfl, by simp [written]⟩, by simp, rfl⟩
  · cases h

theorem exists_spelled (h : decodeGroups? text = some bytes) : ∃ symbols pad,
    Spelled symbols pad text ∧ symbols.length % 4 ≠ 1 ∧ bytes = octets symbols := by
  fun_induction decodeGroups? text generalizing bytes with
  | case1 x y z w e rest ih =>
    simp only [Option.bind_eq_bind, Option.bind_eq_some_iff, Option.pure_def,
      Option.some.injEq] at h
    obtain ⟨group, front, later, back, rfl⟩ := h
    obtain ⟨a, b, c, d, four, written, rfl⟩ := exists_spelled_four front
    obtain ⟨symbols, pad, ⟨small, padded, spelled⟩, whole, rfl⟩ := ih back
    refine ⟨[a, b, c, d] ++ symbols, pad, ⟨?_, ?_, ?_⟩, ?_, rfl⟩
    · exact List.forall_mem_append.mpr ⟨four, small⟩
    · simp only [List.length_append, List.length_cons, List.length_nil]
      omega
    · rw [List.map_append, written, List.append_assoc, ← spelled]
      rfl
    · simp only [List.length_append, List.length_cons, List.length_nil]
      omega
  | case2 last => exact exists_spelled_last h

/-- A text is decoded to the bytes that it stands for, and only then. -/
theorem decode?_eq_some_iff : decode? text = some bytes ↔ Denotes text bytes := by
  rw [decode?]
  constructor
  · intro h
    obtain ⟨symbols, pad, spelled, whole, rfl⟩ := exists_spelled h
    exact ⟨symbols, pad, spelled, holds_octets spelled.small whole⟩
  · rintro ⟨symbols, pad, spelled, holds⟩
    rw [holds.unique (holds_octets spelled.small holds.whole)]
    exact decodeGroups?_of_spelled spelled holds.whole

theorem Denotes.notMem {c : UInt8} (h : Denotes text bytes) (visible : isBlank c = false)
    (foreign : value? c = none) (other : c ≠ padding) : c ∉ text := by
  obtain ⟨symbols, pad, spelled, -⟩ := h
  intro hc
  have kept : c ∈ text.filter fun c => !isBlank c := by simp [hc, visible]
  rw [spelled.written, List.mem_append] at kept
  rcases kept with symbol | filler
  · obtain ⟨a, ha, rfl⟩ := List.mem_map.mp symbol
    rw [value?_character (spelled.small a ha)] at foreign
    cases foreign
  · exact other (List.eq_of_mem_replicate filler)

/-! ## Standard base64 -/

theorem low_eq {n : Nat} {x : UInt8} (h : n % 256 = x.toNat) : low n = x := by
  apply UInt8.toNat_inj.mp
  rw [low, UInt8.toNat_ofNat', ← h]

theorem exists_spelled_encode (padded : Bool) (bytes : List UInt8) : ∃ symbols pad,
    Spelled symbols pad (encode padded bytes) ∧ symbols.length % 4 ≠ 1 ∧
      bytes = octets symbols := by
  induction bytes using encode.induct with
  | case1 => exact ⟨[], 0, ⟨by simp, .inl rfl, rfl⟩, by decide, rfl⟩
  | case2 x =>
    have hx := x.toNat_lt
    refine ⟨[x.toNat / 4, x.toNat % 4 * 16], if padded then 2 else 0, ⟨?_, ?_, ?_⟩, ?_, ?_⟩
    · simp only [List.forall_mem_cons]
      exact ⟨by omega, by omega, by simp⟩
    · cases padded <;> simp
    · cases padded <;> simp [encode, List.replicate]
    · simp
    · rw [octets, low_eq (x := x) (by omega)]
  | case3 x y =>
    have hx := x.toNat_lt
    have hy := y.toNat_lt
    refine ⟨[x.toNat / 4, x.toNat % 4 * 16 + y.toNat / 16, y.toNat % 16 * 4],
      if padded then 1 else 0, ⟨?_, ?_, ?_⟩, ?_, ?_⟩
    · simp only [List.forall_mem_cons]
      exact ⟨by omega, by omega, by omega, by simp⟩
    · cases padded <;> simp
    · cases padded <;> simp [encode]
    · simp
    · rw [octets, low_eq (x := x) (by omega), low_eq (x := y) (by omega)]
  | case4 x y z rest ih =>
    obtain ⟨symbols, pad, ⟨small, fits, written⟩, whole, same⟩ := ih
    have hx := x.toNat_lt
    have hy := y.toNat_lt
    have hz := z.toNat_lt
    refine ⟨[x.toNat / 4, x.toNat % 4 * 16 + y.toNat / 16, y.toNat % 16 * 4 + z.toNat / 64,
      z.toNat % 64] ++ symbols, pad, ⟨?_, ?_, ?_⟩, ?_, ?_⟩
    · simp only [List.forall_mem_append, List.forall_mem_cons]
      exact ⟨⟨by omega, by omega, by omega, by omega, by simp⟩, small⟩
    · simp only [List.length_append, List.length_cons, List.length_nil]
      omega
    · rw [List.map_append, List.append_assoc, ← written]
      rfl
    · simp only [List.length_append, List.length_cons, List.length_nil]
      omega
    · simp only [List.cons_append, List.nil_append, octets]
      rw [low_eq (x := x) (by omega), low_eq (x := y) (by omega), low_eq (x := z) (by omega),
        ← same]

theorem denotes_of_encode (padded : Bool)
    (h : text.filter (fun c => !isBlank c) = encode padded bytes) : Denotes text bytes := by
  obtain ⟨symbols, pad, spelled, whole, rfl⟩ := exists_spelled_encode padded bytes
  refine ⟨symbols, pad, ?_, holds_octets spelled.small whole⟩
  rwa [h]

end TunnelServer.Base64
