import Mathlib.Data.List.Forall2
import Mathlib.Data.List.Induction
import Mathlib.Data.Nat.Digits.Defs
import Mathlib.Data.Option.Basic
import TunnelServer.Address.V4
import TunnelServer.Wire.Integer

/-!
# The spellings of an IPv4 address

The loose numeric form has a grammar of its own, in which an address is spelled by one to four
parts. Its reader finds an address exactly in the spellings of that address, and the strict form is
one of these.
-/

namespace TunnelServer

namespace Numeral

variable {base n : Nat} {text front rest : List Char}

/-- A numeral is a digit, or a numeral with a further digit behind it. -/
inductive Spells (base : Nat) : List Char → Nat → Prop where
  | digit {c : Char} {d : Nat} (h : digitValue? base c = some d) : Spells base [c] d
  | further {text : List Char} {c : Char} {n d : Nat} (front : Spells base text n)
      (h : digitValue? base c = some d) : Spells base (text ++ [c]) (n * base + d)

theorem Spells.isDigit (h : Spells base text n) : ∀ c ∈ text, isDigit base c := by
  induction h with
  | digit h => simp [Numeral.isDigit, h]
  | further front h ih =>
    intro c hc
    rcases List.mem_append.mp hc with before | last
    · exact ih c before
    · obtain rfl := List.mem_singleton.mp last
      simp [Numeral.isDigit, h]

theorem Spells.ne_nil (h : Spells base text n) : text ≠ [] := by
  cases h <;> simp

theorem Spells.readFrom?_eq (h : Spells base text n) : readFrom? base 0 text = some n := by
  induction h with
  | digit h => simp [readFrom?, h]
  | further front h ih => simp [readFrom?_append, ih, readFrom?, h]

theorem Spells.append {value : Nat} (hf : Spells base front value)
    (h : readFrom? base value rest = some n) : Spells base (front ++ rest) n := by
  induction rest generalizing front value with
  | nil =>
    obtain rfl := Option.some.inj h
    rwa [List.append_nil]
  | cons c rest ih =>
    rw [readFrom?] at h
    cases hd : digitValue? base c with
    | none => simp [hd] at h
    | some digit =>
      rw [hd] at h
      have longer := ih (hf.further hd) h
      rwa [List.append_assoc] at longer

theorem read?_eq_some_iff : read? base text = some n ↔ Spells base text n := by
  constructor
  · intro h
    cases text with
    | nil => cases h
    | cons c rest =>
      rw [read?, readFrom?] at h
      cases hd : digitValue? base c with
      | none => simp [hd] at h
      | some digit =>
        simp only [hd, Nat.zero_mul, Nat.zero_add] at h
        exact (Spells.digit hd).append h
  · intro h
    obtain ⟨c, rest, rfl⟩ := List.exists_cons_of_ne_nil h.ne_nil
    exact h.readFrom?_eq

end Numeral

namespace Wire

theorem ofBigEndian_cons (b : UInt8) (bytes : List UInt8) :
    ofBigEndian (b :: bytes) = b.toNat * span bytes.length + ofBigEndian bytes := by
  induction bytes using List.reverseRecOn with
  | nil => simp [ofBigEndian, span]
  | append_singleton bytes last ih =>
    rw [← List.cons_append, ofBigEndian_append_singleton, ih, ofBigEndian_append_singleton,
      List.length_append, List.length_singleton, span, Nat.add_mul, Nat.mul_assoc, Nat.add_assoc]

end Wire

namespace Text

variable {α : Type} {read : List Char → Option α} {texts : List (List Char)} {values : List α}

theorem mapM_eq_some_iff {Spelling : List Char → α → Prop}
    (h : ∀ text value, read text = some value ↔ Spelling text value) :
    texts.mapM read = some values ↔ List.Forall₂ Spelling texts values := by
  induction texts generalizing values with
  | nil => simp [eq_comm]
  | cons text texts ih =>
    rw [List.forall₂_cons_left_iff]
    simp only [List.mapM_cons, Option.bind_eq_bind, Option.bind_eq_some_iff, Option.pure_def,
      Option.some.injEq, h, ih, exists_and_left, eq_comm (a := values)]

end Text

namespace V4

variable {address : V4} {text : List Char} {parts : List (List Char)} {numbers : List Nat}
  {count left value n : Nat}

/-- A part: a decimal numeral, an octal one after a zero, or a hexadecimal one after `0x`. -/
inductive SpellsPart : List Char → Nat → Prop where
  | decimal {digits : List Char} {n : Nat} (numeral : Numeral.Spells 10 digits n)
      (plain : digits.head? ≠ some '0') : SpellsPart digits n
  | octal {digits : List Char} {n : Nat} (numeral : Numeral.Spells 8 ('0' :: digits) n) :
      SpellsPart ('0' :: digits) n
  | hexadecimal {mark : Char} {digits : List Char} {n : Nat} (marked : mark = 'x' ∨ mark = 'X')
      (numeral : Numeral.Spells 16 digits n) : SpellsPart ('0' :: mark :: digits) n

theorem readPart?_eq_some_iff : readPart? text = some n ↔ SpellsPart text n := by
  have unmarked {digits : List Char} {mark : Char} (marked : mark = 'x' ∨ mark = 'X')
      (h : Numeral.Spells 8 ('0' :: mark :: digits) n) : False := by
    have digit := h.isDigit mark (by simp)
    rcases marked with rfl | rfl <;> exact absurd digit (by decide)
  constructor
  · intro h
    unfold readPart? at h
    split at h
    · exact .hexadecimal (.inl rfl) (Numeral.read?_eq_some_iff.mp h)
    · exact .hexadecimal (.inr rfl) (Numeral.read?_eq_some_iff.mp h)
    · exact .octal (Numeral.read?_eq_some_iff.mp h)
    · rename_i plain
      refine .decimal (Numeral.read?_eq_some_iff.mp h) fun zero => ?_
      obtain ⟨digits, rfl⟩ := List.head?_eq_some_iff.mp zero
      exact plain digits rfl
  · intro h
    cases h with
    | decimal numeral plain =>
      unfold readPart?
      split
      · exact absurd rfl plain
      · exact absurd rfl plain
      · exact absurd rfl plain
      · exact Numeral.read?_eq_some_iff.mpr numeral
    | octal numeral =>
      unfold readPart?
      split
      · rename_i he
        cases he
        exact (unmarked (.inl rfl) numeral).elim
      · rename_i he
        cases he
        exact (unmarked (.inr rfl) numeral).elim
      · rename_i he
        cases he
        exact Numeral.read?_eq_some_iff.mpr numeral
      · rename_i plain
        exact absurd rfl (plain _)
    | hexadecimal marked numeral =>
      rcases marked with rfl | rfl <;> exact Numeral.read?_eq_some_iff.mpr numeral

/-- The numbers that give bytes of which so many stand for themselves: these bytes, and the number
whose bytes are the others. -/
def grouped (bytes : List UInt8) (count : Nat) : List Nat :=
  (bytes.take count).map UInt8.toNat ++ [Wire.ofBigEndian (bytes.drop count)]

@[simp] theorem grouped_zero (bytes : List UInt8) : grouped bytes 0 = [Wire.ofBigEndian bytes] :=
  rfl

@[simp] theorem grouped_succ (b : UInt8) (bytes : List UInt8) :
    grouped (b :: bytes) (count + 1) = b.toNat :: grouped bytes count := rfl

theorem grouped_ne_nil (bytes : List UInt8) (count : Nat) : grouped bytes count ≠ [] := by
  simp [grouped]

theorem combineParts?_single (left value last : Nat) : combineParts? left value [last] =
    if last < Wire.span left then some (value * Wire.span left + last) else none := by
  simp only [combineParts?]

theorem combineParts?_cons (left value octet : Nat) (later : numbers ≠ []) :
    combineParts? left value (octet :: numbers) =
      if octet < 256 ∧ 1 < left then combineParts? (left - 1) (value * 256 + octet) numbers
      else none := by
  obtain ⟨next, numbers, rfl⟩ := List.exists_cons_of_ne_nil later
  simp only [combineParts?]

theorem combineParts?_grouped {bytes : List UInt8} (few : count < bytes.length) (value : Nat) :
    combineParts? bytes.length value (grouped bytes count) =
      some (value * Wire.span bytes.length + Wire.ofBigEndian bytes) := by
  induction count generalizing bytes value with
  | zero =>
    rw [grouped_zero, combineParts?_single, if_pos (Wire.ofBigEndian_lt bytes)]
  | succ count ih =>
    obtain ⟨b, bytes, rfl⟩ := List.exists_cons_of_length_pos (Nat.zero_lt_of_lt few)
    rw [List.length_cons] at few
    have more : 1 < (b :: bytes).length := by
      rw [List.length_cons]
      omega
    have octet : b.toNat < 256 := b.toNat_lt
    rw [grouped_succ, combineParts?_cons _ _ _ (grouped_ne_nil bytes count),
      if_pos ⟨octet, more⟩, List.length_cons, Nat.add_sub_cancel, ih (Nat.lt_of_succ_lt_succ few),
      Wire.ofBigEndian_cons, Nat.add_mul, Nat.mul_assoc, Wire.span,
      Nat.mul_comm 256, Nat.add_assoc]

theorem exists_grouped (room : 0 < left) (h : combineParts? left value numbers = some n) :
    ∃ bytes : List UInt8, bytes.length = left ∧ ∃ count < left, numbers = grouped bytes count := by
  fun_induction combineParts? left value numbers with
  | case1 => cases h
  | case2 left value last fits =>
    refine ⟨Wire.toBigEndian left last, Wire.length_toBigEndian left last, 0, room, ?_⟩
    rw [grouped_zero, Wire.ofBigEndian_toBigEndian, Nat.mod_eq_of_lt fits]
  | case3 => cases h
  | case4 left value octet parts later fits ih =>
    obtain ⟨bytes, length, count, few, rfl⟩ := ih (by omega) h
    have byte : (UInt8.ofNat octet).toNat = octet := UInt8.toNat_ofNat_of_lt' fits.1
    refine ⟨UInt8.ofNat octet :: bytes, ?_, count + 1, by omega, ?_⟩
    · rw [List.length_cons, length]
      omega
    · rw [grouped_succ, byte]
  | case5 => cases h

/-- The numbers that give an address of which so many octets stand for themselves. -/
def partNumbers (address : V4) (count : Nat) : List Nat := grouped address.octets count

theorem ofNat_ofBigEndian (address : V4) :
    ofNat (Wire.ofBigEndian address.octets) = address := by
  obtain ⟨a, b, c, d⟩ := address
  have number : Wire.ofBigEndian [a, b, c, d] =
      ((a.toNat * 256 + b.toNat) * 256 + c.toNat) * 256 + d.toNat := by
    simp [Wire.ofBigEndian]
  have ha := a.toNat_lt
  have hb := b.toNat_lt
  have hc := c.toNat_lt
  have hd := d.toNat_lt
  rw [octets, number, ofNat, mk.injEq]
  simp only [← UInt8.toNat_inj, UInt8.toNat_ofNat']
  omega

/-- Four numbers or fewer are combined exactly if they give an address. -/
theorem combineParts?_eq_some_iff : combineParts? 4 0 numbers = some n ↔
    ∃ address : V4, Wire.ofBigEndian address.octets = n ∧
      ∃ count ≤ 3, numbers = address.partNumbers count := by
  constructor
  · intro h
    obtain ⟨bytes, length, count, few, rfl⟩ := exists_grouped (by decide) h
    obtain ⟨a, b, c, d, rfl⟩ : ∃ a b c d, bytes = [a, b, c, d] := by
      match bytes, length with
      | [a, b, c, d], _ => exact ⟨a, b, c, d, rfl⟩
    have few' : count < [a, b, c, d].length := few
    have combined := combineParts?_grouped few' 0
    rw [Nat.zero_mul, Nat.zero_add] at combined
    exact ⟨⟨a, b, c, d⟩, Option.some.inj (combined.symm.trans h), count, Nat.le_of_lt_succ few, rfl⟩
  · rintro ⟨address, rfl, count, few, rfl⟩
    have few : count < address.octets.length := Nat.lt_succ_of_le few
    have combined := combineParts?_grouped few 0
    rwa [Nat.zero_mul, Nat.zero_add] at combined

/-! ## The grammar of the loose form -/

/-- A spelling of an address in the loose numeric form: one to four parts with dots between them, of
which each but the last spells an octet, and the last spells all the octets that are left. -/
def Spelled (address : V4) (text : List Char) : Prop :=
  ∃ count ≤ 3, ∃ parts, List.Forall₂ SpellsPart parts (address.partNumbers count) ∧
    text = Text.joinWith '.' parts

/-- A character that can stand in a part. -/
def isPartChar (c : Char) : Bool := Numeral.isDigit 16 c || c = 'x' || c = 'X'

theorem isDigit_sixteen {base : Nat} {c : Char} (small : base ≤ 16) (h : Numeral.isDigit base c) :
    Numeral.isDigit 16 c := by
  simp only [Numeral.isDigit, Numeral.digitValue?, Option.isSome_filter, Option.any_eq_true,
    decide_eq_true_eq] at h ⊢
  obtain ⟨value, hv, less⟩ := h
  exact ⟨value, hv, Nat.lt_of_lt_of_le less small⟩

theorem SpellsPart.isPartChar (h : SpellsPart text n) : ∀ c ∈ text, isPartChar c := by
  intro c hc
  rw [V4.isPartChar]
  cases h with
  | decimal numeral => simp [isDigit_sixteen (by decide) (numeral.isDigit c hc)]
  | octal numeral => simp [isDigit_sixteen (by decide) (numeral.isDigit c hc)]
  | hexadecimal marked numeral =>
    simp only [List.mem_cons] at hc
    rcases hc with rfl | rfl | hc
    · decide
    · rcases marked with rfl | rfl <;> decide
    · simp [numeral.isDigit c hc]

theorem isPartChar_of_mem (h : List.Forall₂ SpellsPart parts numbers) :
    ∀ part ∈ parts, ∀ c ∈ part, isPartChar c :=
  ((List.forall₂_and_left _ _).mp (h.imp fun _ _ spells => ⟨spells.isPartChar, spells⟩)).1

/-- The loose reader finds an address exactly in the spellings of that address. -/
theorem readLoose?_eq_some_iff : readLoose? text = some address ↔ address.Spelled text := by
  have spelled {texts : List (List Char)} {values : List Nat} :
      texts.mapM readPart? = some values ↔ List.Forall₂ SpellsPart texts values :=
    Text.mapM_eq_some_iff fun _ _ => readPart?_eq_some_iff
  simp only [readLoose?, Option.bind_eq_bind, Option.bind_eq_some_iff, Option.pure_def,
    Option.some.injEq, spelled, combineParts?_eq_some_iff]
  constructor
  · rintro ⟨numbers, spells, n, ⟨address, rfl, count, few, rfl⟩, rfl⟩
    rw [ofNat_ofBigEndian]
    exact ⟨count, few, _, spells, (Text.joinWith_splitOn '.' text).symm⟩
  · rintro ⟨count, few, parts, spells, rfl⟩
    have apart : ∀ part ∈ parts, '.' ∉ part := by
      intro part hp dot
      exact absurd (isPartChar_of_mem spells part hp '.' dot) (by decide)
    have some : parts ≠ [] := by
      rintro rfl
      exact grouped_ne_nil address.octets count (List.forall₂_nil_left_iff.mp spells)
    refine ⟨_, ?_, _, ⟨address, rfl, count, few, rfl⟩, ofNat_ofBigEndian address⟩
    rwa [Text.splitOn_joinWith some apart]

theorem mem_joinWith {separator c : Char} (h : c ∈ Text.joinWith separator parts) :
    c = separator ∨ ∃ part ∈ parts, c ∈ part := by
  induction parts with
  | nil => cases h
  | cons part parts ih =>
    cases parts with
    | nil => exact .inr ⟨part, List.mem_cons_self, h⟩
    | cons next parts =>
      rw [Text.joinWith, List.mem_append, List.mem_cons] at h
      rcases h with here | rfl | later
      · exact .inr ⟨part, List.mem_cons_self, here⟩
      · exact .inl rfl
      · rcases ih later with same | ⟨other, ho, hc⟩
        · exact .inl same
        · exact .inr ⟨other, List.mem_cons_of_mem _ ho, hc⟩

theorem Spelled.notMem {c : Char} (h : address.Spelled text) (dot : c ≠ '.')
    (other : isPartChar c = false) : c ∉ text := by
  obtain ⟨count, few, parts, spells, rfl⟩ := h
  intro hc
  rcases mem_joinWith hc with same | ⟨part, hp, hc⟩
  · exact dot same
  · rw [isPartChar_of_mem spells part hp c hc] at other
    cases other

/-! ## The strict form -/

theorem SpellsPart.of_readOctet? {octet : UInt8} (h : readOctet? text = some octet) :
    SpellsPart text octet.toNat := by
  simp only [readOctet?, Option.bind_eq_bind, Option.bind_eq_some_iff, Option.guard_eq_some',
    exists_and_left, exists_const, Option.pure_def, Option.some.injEq] at h
  obtain ⟨-, single, value, hv, small, rfl⟩ := h
  have numeral := Numeral.read?_eq_some_iff.mp hv
  rw [UInt8.toNat_ofNat_of_lt' small]
  cases text with
  | nil => exact absurd rfl numeral.ne_nil
  | cons c rest =>
    by_cases zero : c = '0'
    · -- a zero stands alone, and then it is an octal numeral too
      subst zero
      have alone : rest = [] := by simpa using single
      subst alone
      obtain rfl := Option.some.inj hv
      exact .octal (.digit rfl)
    · exact .decimal numeral (by simpa using zero)

theorem Spelled.of_read? (h : read? text = some address) : address.Spelled text := by
  unfold read? at h
  split at h
  · rename_i a b c d found
    obtain rfl := Option.some.inj h
    have read := (Text.mapM_eq_some_iff fun _ _ => Iff.rfl).mp found
    have spells := List.forall₂_map_right_iff.mpr (read.imp fun _ _ => SpellsPart.of_readOctet?)
    have numbers : partNumbers ⟨a, b, c, d⟩ 3 = [a, b, c, d].map UInt8.toNat := by
      simp [partNumbers, grouped, octets, Wire.ofBigEndian]
    rw [← numbers] at spells
    exact ⟨3, Nat.le_refl 3, _, spells, (Text.joinWith_splitOn '.' text).symm⟩
  · cases h

theorem readOctet?_digits (octet : UInt8) :
    readOctet? (Numeral.digits 10 octet.toNat) = some octet := by
  have small : octet.toNat < 256 := octet.toNat_lt
  have short : (Numeral.digits 10 octet.toNat).length ≤ 3 :=
    Nat.toDigits_length 10 octet.toNat 3 (by decide) (Nat.lt_trans small (by decide))
  have single : (Numeral.digits 10 octet.toNat).length ≤ 1 ∨
      (Numeral.digits 10 octet.toNat).head? ≠ some '0' := by
    by_cases zero : (Numeral.digits 10 octet.toNat).head? = some '0'
    · left
      rw [Numeral.head?_digits zero]
      decide
    · exact .inr zero
  have value : Numeral.read? 10 (Numeral.digits 10 octet.toNat) = some octet.toNat :=
    Numeral.read?_digits (by decide) (by decide) octet.toNat
  simp [readOctet?, short, single, value, small, guard]

theorem read?_characters (address : V4) : read? address.characters = some address := by
  have apart : ∀ part ∈ address.octets.map fun octet => Numeral.digits 10 octet.toNat,
      '.' ∉ part := by
    intro part hp dot
    obtain ⟨octet, -, rfl⟩ := List.mem_map.mp hp
    exact absurd (Nat.isDigit_of_mem_toDigits (by decide) (by decide) dot) (by decide)
  have split := Text.splitOn_joinWith (by simp [octets]) apart
  rw [read?, characters, split]
  simp [octets, readOctet?_digits]

end V4

end TunnelServer
