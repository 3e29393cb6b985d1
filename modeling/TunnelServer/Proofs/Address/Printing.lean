import Mathlib.Data.List.TakeWhile
import TunnelServer.Proofs.Address.Literal

/-!
# The printed form of an address

Each address has one printed form. That of an IPv6 address leaves out the longest run of at least
two zero groups, the first of several, unless the address stands for an IPv4 address. The printed
form is read as the address that it was printed for.
-/

namespace TunnelServer

namespace V6

/-! ## Runs of zero groups -/

/-- Between the groups before and after it, this is the longest run of zero groups, and the first
of those that are as long. -/
structure IsGap (before : List UInt16) (length : Nat) (after : List UInt16) : Prop where
  longest : ∀ front count back,
    before ++ List.replicate length 0 ++ after = front ++ List.replicate count 0 ++ back →
      count ≤ length
  first : ∀ front back,
    before ++ List.replicate length 0 ++ after = front ++ List.replicate length 0 ++ back →
      before.length ≤ front.length

variable {before after front back groups : List UInt16} {length count : Nat}

theorem le_length_takeWhile (h : groups = List.replicate count 0 ++ back) :
    count ≤ (groups.takeWhile (· = 0)).length := by
  subst h
  rw [List.takeWhile_append_of_pos (by simp)]
  simp

theorem takeWhile_eq_replicate (groups : List UInt16) :
    groups.takeWhile (· = 0) = List.replicate (groups.takeWhile (· = 0)).length 0 := by
  rw [List.eq_replicate_iff]
  exact ⟨rfl, fun group h => by simpa using List.mem_takeWhile_imp h⟩

theorem IsGap.cons {group : UInt16} (gap : IsGap before length after)
    (longer : ((group :: (before ++ List.replicate length 0 ++ after)).takeWhile (· = 0)).length <
      length) : IsGap (group :: before) length after where
  longest front count back h := by
    cases front with
    | nil => exact Nat.le_trans (le_length_takeWhile h) (Nat.le_of_lt longer)
    | cons other front => exact gap.longest front count back (List.cons.inj h).2
  first front back h := by
    cases front with
    | nil => exact absurd (le_length_takeWhile h) (Nat.not_le_of_lt longer)
    | cons other front => exact Nat.succ_le_succ (gap.first front back (List.cons.inj h).2)

theorem exists_gap (groups : List UInt16) : ∃ before length after,
    groups = before ++ List.replicate length 0 ++ after ∧ IsGap before length after ∧
      longestZeros groups = (before.length, length) := by
  induction groups with
  | nil => exact ⟨[], 0, [], rfl, ⟨by simp +contextual, by simp⟩, rfl⟩
  | cons group rest ih =>
    obtain ⟨before, length, after, same, gap, found⟩ := ih
    rw [longestZeros, found]
    by_cases here : length ≤ ((group :: rest).takeWhile (· = 0)).length
    · have whole : group :: rest =
          [] ++ List.replicate ((group :: rest).takeWhile (· = 0)).length 0 ++
            (group :: rest).dropWhile (· = 0) := by
        rw [← takeWhile_eq_replicate, List.nil_append, List.takeWhile_append_dropWhile]
      refine ⟨[], _, _, whole, ⟨fun front count back h => ?_, by simp⟩, if_pos here⟩
      rw [← whole] at h
      cases front with
      | nil => exact le_length_takeWhile h
      | cons other front =>
        have tail := (List.cons.inj h).2
        rw [same] at tail
        exact Nat.le_trans (gap.longest front count back tail) here
    · refine ⟨group :: before, length, after, by rw [same]; rfl, gap.cons ?_, if_neg here⟩
      rw [← same]
      exact Nat.lt_of_not_le here

/-- Groups have one such run at most. -/
theorem IsGap.unique (gap : IsGap before length after) (other : IsGap front count back)
    (same : before ++ List.replicate length 0 ++ after = front ++ List.replicate count 0 ++ back) :
    before = front ∧ length = count ∧ after = back := by
  obtain rfl : length = count :=
    Nat.le_antisymm (other.longest _ _ _ same.symm) (gap.longest _ _ _ same)
  have place : before.length = front.length :=
    Nat.le_antisymm (gap.first _ _ same) (other.first _ _ same.symm)
  rw [List.append_assoc, List.append_assoc] at same
  obtain ⟨rfl, rest⟩ := List.append_inj same place
  exact ⟨rfl, rfl, List.append_cancel_left rest⟩

/-! ## The printed form -/

/-- The printed form of an address: groups in hexadecimal digits, without the longest run of zero
groups if there are two of them in a row, or the dotted form of the IPv4 address that it stands
for. -/
inductive Printed (address : V6) : List Char → Prop where
  | mapped (inner : V4) (h : address = ofV4 inner) : Printed address (mappedCharacters inner)
  | full (native : ∀ inner, address ≠ ofV4 inner)
      (apart : ∀ front back, address.groups ≠ front ++ List.replicate 2 0 ++ back) :
      Printed address (joinGroups address.groups)
  | gapped {before after : List UInt16} {length : Nat} (native : ∀ inner, address ≠ ofV4 inner)
      (groups : address.groups = before ++ List.replicate length 0 ++ after) (long : 1 < length)
      (gap : IsGap before length after) :
      Printed address (joinGroups before ++ [':', ':'] ++ joinGroups after)

variable {address : V6} {text : List Char}

theorem toV4?_eq_none_iff : address.toV4? = none ↔ ∀ inner, address ≠ ofV4 inner := by
  rw [Option.eq_none_iff_forall_ne_some]
  simp only [ne_eq, toV4?_eq_some_iff]

theorem characters_of_native (native : ∀ inner, address ≠ ofV4 inner)
    (gap : IsGap before length after)
    (groups : address.groups = before ++ List.replicate length 0 ++ after) :
    address.characters =
      if 1 < length then joinGroups before ++ [':', ':'] ++ joinGroups after
      else joinGroups address.groups := by
  obtain ⟨front, count, back, same, other, found⟩ := exists_gap address.groups
  obtain ⟨rfl, rfl, rfl⟩ := gap.unique other (groups.symm.trans same)
  have left : address.groups.take before.length = before := by
    rw [groups, List.append_assoc, List.take_left]
  have right : address.groups.drop (before.length + length) = after := by
    rw [groups, ← List.drop_drop, List.append_assoc, List.drop_left]
    exact List.drop_left' List.length_replicate
  simp only [characters, toV4?_eq_none_iff.mpr native, found, left, right]

/-- An address has exactly one printed form. -/
theorem printed_iff : address.Printed text ↔ text = address.characters := by
  constructor
  · intro h
    cases h with
    | mapped inner h =>
      simp only [characters, toV4?_eq_some_iff.mpr h]
      rfl
    | full native apart =>
      obtain ⟨before, length, after, groups, gap, -⟩ := exists_gap address.groups
      have short : ¬ 1 < length := by
        intro long
        obtain ⟨more, rfl⟩ := Nat.exists_eq_add_of_lt long
        apply apart before (List.replicate more 0 ++ after)
        rw [groups, List.append_assoc, List.append_assoc, ← List.append_assoc (List.replicate 2 0),
          List.replicate_append_replicate, Nat.add_right_comm]
      rw [characters_of_native native gap groups, if_neg short]
    | gapped native groups long gap =>
      rw [characters_of_native native gap groups, if_pos long]
  · rintro rfl
    cases stands : address.toV4? with
    | some inner =>
      have form : address.characters = mappedCharacters inner := by
        simp only [characters, stands]
        rfl
      rw [form]
      exact .mapped inner (toV4?_eq_some_iff.mp stands)
    | none =>
      have native := toV4?_eq_none_iff.mp stands
      obtain ⟨before, length, after, groups, gap, -⟩ := exists_gap address.groups
      rw [characters_of_native native gap groups]
      split
      · exact .gapped native groups ‹_› gap
      · refine .full native fun front back two => ?_
        exact absurd (gap.longest front 2 back (groups.symm.trans two)) ‹_›

/-! ## Reading the printed form -/

theorem notMem_digits {c : Char} (base : Nat) (large : 1 < base) (small : base ≤ 16)
    (h : Numeral.isDigit base c = false) (n : Nat) : c ∉ Numeral.digits base n := by
  intro hc
  have spells := Numeral.read?_eq_some_iff.mp (Numeral.read?_digits large small n)
  rw [spells.isDigit c hc] at h
  cases h

theorem readGroup?_digits (group : UInt16) :
    readGroup? (Numeral.digits 16 group.toNat) = some group := by
  have short : (Numeral.digits 16 group.toNat).length ≤ 4 :=
    Nat.toDigits_length 16 group.toNat 4 (by decide) group.toNat_lt
  simp [readGroup?, short, Numeral.read?_digits, guard]

theorem read?_v4_digits (group : UInt16) : V4.read? (Numeral.digits 16 group.toNat) = none := by
  have whole : '.' ∉ Numeral.digits 16 group.toNat :=
    notMem_digits 16 (by decide) (by decide) (by decide) _
  rw [V4.read?, Text.splitOn_of_notMem whole, List.mapM_cons, List.mapM_nil]
  cases V4.readOctet? (Numeral.digits 16 group.toNat) <;> rfl

theorem readPieces?_digits (groups : List UInt16) :
    readPieces? (groups.map fun group => Numeral.digits 16 group.toNat) = some groups := by
  induction groups with
  | nil => rfl
  | cons group groups ih =>
    cases groups with
    | nil => simp [readPieces?, read?_v4_digits, readGroup?_digits]
    | cons next groups =>
      rw [List.map_cons, readPieces?, readGroup?_digits, ih]
      · rfl
      · simp

theorem exists_joinGroups_cons (group : UInt16) (groups : List UInt16) :
    ∃ c rest, joinGroups (group :: groups) = c :: rest ∧ c ≠ ':' := by
  obtain ⟨c, digits, written⟩ :=
    List.exists_cons_of_ne_nil (Numeral.digits_ne_nil 16 group.toNat (by decide))
  have plain : c ≠ ':' := by
    rintro rfl
    exact notMem_digits 16 (by decide) (by decide) (by decide) _ (written ▸ List.mem_cons_self)
  cases groups with
  | nil => exact ⟨c, digits, written, plain⟩
  | cons next groups =>
    refine ⟨c, digits ++ ':' :: joinGroups (next :: groups), ?_, plain⟩
    rw [joinGroups, List.map_cons, List.map_cons, Text.joinWith, written]
    rfl

theorem readSide?_joinGroups (groups : List UInt16) :
    readSide? (joinGroups groups) = some groups := by
  cases groups with
  | nil => rfl
  | cons group groups =>
    obtain ⟨c, rest, written, -⟩ := exists_joinGroups_cons group groups
    have apart : ∀ piece ∈ (group :: groups).map fun group => Numeral.digits 16 group.toNat,
        ':' ∉ piece := by
      intro piece hp
      obtain ⟨group, -, rfl⟩ := List.mem_map.mp hp
      exact notMem_digits 16 (by decide) (by decide) (by decide) _
    rw [readSide?, if_neg (by simp [written]), joinGroups,
      Text.splitOn_joinWith (by simp) apart, readPieces?_digits]

theorem splitGap_append {piece : List Char} (h : ':' ∉ piece) (text : List Char) :
    splitGap (piece ++ text) =
      (splitGap text).map fun (before, after) => (piece ++ before, after) := by
  induction piece with
  | nil => simp
  | cons c piece ih =>
    simp only [List.mem_cons, not_or] at h
    rw [List.cons_append, splitGap, ih h.2, Option.map_map]
    · rfl
    · rintro rest rfl
      exact absurd rfl h.1

theorem splitGap_joinGroups (groups : List UInt16) (text : List Char) :
    splitGap (joinGroups groups ++ text) =
      (splitGap text).map fun (before, after) => (joinGroups groups ++ before, after) := by
  induction groups with
  | nil => simp [joinGroups, Text.joinWith]
  | cons group groups ih =>
    have digits : ':' ∉ Numeral.digits 16 group.toNat :=
      notMem_digits 16 (by decide) (by decide) (by decide) _
    cases groups with
    | nil => exact splitGap_append digits text
    | cons next groups =>
      obtain ⟨c, rest, written, plain⟩ := exists_joinGroups_cons next groups
      have single : splitGap (':' :: (joinGroups (next :: groups) ++ text)) =
          (splitGap (joinGroups (next :: groups) ++ text)).map
            fun (before, after) => (':' :: before, after) := by
        rw [splitGap]
        intro other _ he
        rw [written] at he
        exact plain (List.cons.inj he).1
      have form : joinGroups (group :: next :: groups) =
          Numeral.digits 16 group.toNat ++ ':' :: joinGroups (next :: groups) := rfl
      rw [form, List.append_assoc, List.cons_append, splitGap_append digits, single, ih,
        Option.map_map, Option.map_map]
      congr 1
      funext halves
      simp

theorem notMem_joinGroups {c : Char} (colon : c ≠ ':') (other : Numeral.isDigit 16 c = false)
    (groups : List UInt16) : c ∉ joinGroups groups := by
  intro hc
  rcases V4.mem_joinWith hc with same | ⟨piece, hp, hc⟩
  · exact colon same
  · obtain ⟨group, -, rfl⟩ := List.mem_map.mp hp
    exact notMem_digits 16 (by decide) (by decide) other _ hc

theorem ofGroups?_groups (address : V6) : ofGroups? address.groups = some address :=
  dif_pos address.length_groups

/-- What is printed for an address is read as this address. -/
theorem Printed.read?_eq (h : address.Printed text) : read? text = some address := by
  cases h with
  | mapped inner h =>
    rw [h]
    exact read?_mappedCharacters inner
  | full =>
    have whole : splitGap (joinGroups address.groups) = none := by
      have split := splitGap_joinGroups address.groups []
      rwa [List.append_nil] at split
    simp only [read?, whole, readSide?_joinGroups]
    exact ofGroups?_groups address
  | @gapped before after length _ groups long =>
    have split : splitGap (joinGroups before ++ [':', ':'] ++ joinGroups after) =
        some (joinGroups before, joinGroups after) := by
      rw [List.append_assoc, splitGap_joinGroups]
      simp [splitGap]
    have eight := address.length_groups
    simp only [groups, List.length_append, List.length_replicate] at eight
    have room : before.length + after.length < 8 := by omega
    have missing : 8 - before.length - after.length = length := by omega
    have plain : '.' ∉ joinGroups before := notMem_joinGroups (by decide) (by decide) before
    have filled : fillGap? before after = some address := by
      rw [fillGap?, if_pos room, missing, ← groups, ofGroups?_groups]
    simp only [read?, split, readSide?_joinGroups, plain, not_false_eq_true, guard_true]
    exact filled

end V6

namespace IpAddress

/-- The printed form of an address of either family. -/
inductive Printed : IpAddress → List Char → Prop where
  | v4 (address : V4) : Printed (.v4 address) address.characters
  | v6 {address : V6} {text : List Char} (h : address.Printed text) : Printed (.v6 address) text

variable {address : IpAddress} {text : List Char} {c : Char}

theorem printed_iff : address.Printed text ↔ text = address.characters := by
  cases address with
  | v4 address =>
    constructor
    · rintro ⟨⟩
      rfl
    · rintro rfl
      exact .v4 address
  | v6 address =>
    constructor
    · rintro (_ | h)
      exact V6.printed_iff.mp h
    · intro h
      exact .v6 (V6.printed_iff.mpr h)

theorem read?_characters (address : IpAddress) : read? address.characters = some address := by
  cases address with
  | v4 address => rw [read?, characters, V4.read?_characters]
  | v6 address => exact read?_of_v6 (V6.printed_iff.mpr rfl).read?_eq

theorem notMem_of_read? (foreign : V6.Foreign c) (h : read? text = some address) : c ∉ text := by
  unfold read? at h
  split at h
  · rename_i found
    exact (V4.Spelled.of_read? found).notMem foreign.dot foreign.part
  · obtain ⟨found, read, -⟩ := Option.map_eq_some_iff.mp h
    exact foreign.notMem read

end IpAddress

end TunnelServer
