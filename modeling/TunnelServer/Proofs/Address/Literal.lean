import TunnelServer.Address.Ip
import TunnelServer.Proofs.Address.Spelling

/-!
# Literals of either family

An address literal holds only digits, dots and colons. Every IPv6 literal holds a colon and no
spelling of an IPv4 address does, so no text is read as addresses of both families.
-/

namespace TunnelServer

namespace V6

variable {text before after : List Char} {pieces : List (List Char)} {groups : List UInt16}
  {address : V6} {group : UInt16} {c : Char}

theorem isPartChar_of_readGroup? (h : readGroup? text = some group) :
    ∀ c ∈ text, V4.isPartChar c := by
  simp only [readGroup?, Option.bind_eq_bind, Option.bind_eq_some_iff, Option.guard_eq_some',
    exists_const, Option.pure_def] at h
  obtain ⟨-, value, read, -⟩ := h
  intro c hc
  simp [V4.isPartChar, (Numeral.read?_eq_some_iff.mp read).isDigit c hc]

/-- A character that belongs to no piece of a literal. -/
structure Foreign (c : Char) : Prop where
  colon : c ≠ ':'
  dot : c ≠ '.'
  part : V4.isPartChar c = false

theorem Foreign.notMem_group (foreign : Foreign c) (h : readGroup? text = some group) :
    c ∉ text := by
  intro hc
  have part := isPartChar_of_readGroup? h c hc
  rw [foreign.part] at part
  cases part

theorem Foreign.notMem_pieces (foreign : Foreign c) (h : readPieces? pieces = some groups) :
    ∀ piece ∈ pieces, c ∉ piece := by
  fun_induction readPieces? pieces generalizing groups with
  | case1 => simp
  | case2 last v4 read =>
    rw [List.forall_mem_singleton]
    exact (V4.Spelled.of_read? read).notMem foreign.dot foreign.part
  | case3 last =>
    obtain ⟨group, read, -⟩ := Option.map_eq_some_iff.mp h
    rw [List.forall_mem_singleton]
    exact foreign.notMem_group read
  | case4 piece pieces _ ih =>
    simp only [Option.bind_eq_bind, Option.bind_eq_some_iff] at h
    obtain ⟨group, read, others, later, -⟩ := h
    exact List.forall_mem_cons.mpr ⟨foreign.notMem_group read, ih later⟩

theorem Foreign.notMem_side (foreign : Foreign c) (h : readSide? text = some groups) :
    c ∉ text := by
  unfold readSide? at h
  split at h
  · rename_i empty
    rw [List.isEmpty_iff.mp empty]
    exact List.not_mem_nil
  · intro hc
    rw [← Text.joinWith_splitOn ':' text] at hc
    rcases V4.mem_joinWith hc with colon | ⟨piece, hp, hc⟩
    · exact foreign.colon colon
    · exact foreign.notMem_pieces h piece hp hc

theorem splitGap_eq (h : splitGap text = some (before, after)) :
    text = before ++ ':' :: ':' :: after := by
  fun_induction splitGap text generalizing before after with
  | case1 rest =>
    cases h
    rfl
  | case2 c rest _ ih =>
    obtain ⟨⟨front, back⟩, found, he⟩ := Option.map_eq_some_iff.mp h
    cases he
    rw [ih found, List.cons_append]
  | case3 => cases h

theorem Foreign.notMem (foreign : Foreign c) (h : read? text = some address) : c ∉ text := by
  unfold read? at h
  split at h
  · obtain ⟨groups, read, -⟩ := Option.bind_eq_some_iff.mp h
    exact foreign.notMem_side read
  · rename_i before after gap
    simp only [Option.bind_eq_bind, Option.bind_eq_some_iff, Option.guard_eq_some',
      exists_const] at h
    obtain ⟨-, front, read, back, read', -⟩ := h
    rw [splitGap_eq gap]
    simp [foreign.notMem_side read, foreign.notMem_side read', foreign.colon]

theorem colon_mem_of_read? (h : read? text = some address) : ':' ∈ text := by
  by_contra none
  unfold read? at h
  split at h
  · obtain ⟨groups, read, eight⟩ := Option.bind_eq_some_iff.mp h
    have few : groups.length ≤ 2 := by
      unfold readSide? at read
      split at read
      · cases read
        decide
      · rw [Text.splitOn_of_notMem none, readPieces?] at read
        split at read
        · cases read
          exact Nat.le_refl 2
        · obtain ⟨group, -, rfl⟩ := Option.map_eq_some_iff.mp read
          exact Nat.le_succ 1
    unfold ofGroups? at eight
    split at eight
    · omega
    · cases eight
  · rename_i gap
    rw [splitGap_eq gap] at none
    simp at none

@[simp] theorem v4OfGroups_pairGroup (a b c d : UInt8) :
    v4OfGroups (pairGroup a b) (pairGroup c d) = ⟨a, b, c, d⟩ := by
  have high (x y : UInt8) : UInt8.ofNat ((pairGroup x y).toNat / 256) = x := by
    have hx := x.toNat_lt
    have hy := y.toNat_lt
    apply UInt8.toNat_inj.mp
    rw [pairGroup, UInt8.toNat_ofNat', UInt16.toNat_ofNat']
    omega
  have low (x y : UInt8) : UInt8.ofNat (pairGroup x y).toNat = y := by
    have hx := x.toNat_lt
    have hy := y.toNat_lt
    apply UInt8.toNat_inj.mp
    rw [pairGroup, UInt8.toNat_ofNat', UInt16.toNat_ofNat']
    omega
  simp only [v4OfGroups, high, low]

theorem pairGroup_ofNat (group : UInt16) :
    pairGroup (UInt8.ofNat (group.toNat / 256)) (UInt8.ofNat group.toNat) = group := by
  have less := group.toNat_lt
  apply UInt16.toNat_inj.mp
  rw [pairGroup, UInt16.toNat_ofNat', UInt8.toNat_ofNat', UInt8.toNat_ofNat']
  omega

theorem toV4?_eq_some_iff {address : V6} {inner : V4} :
    address.toV4? = some inner ↔ address = ofV4 inner := by
  constructor
  · intro h
    obtain ⟨groups, length_groups⟩ := address
    unfold toV4? at h
    split at h
    · rename_i high low same
      obtain rfl := Option.some.inj h
      subst same
      simp only [ofV4, groupsOfV4, v4OfGroups, pairGroup_ofNat, List.cons_append, List.nil_append]
    · cases h
  · rintro rfl
    show some (v4OfGroups _ _) = some inner
    rw [v4OfGroups_pairGroup]

/-- The literal of the IPv6 address that stands for an IPv4 address. -/
def mappedCharacters (inner : V4) : List Char := "::ffff:".toList ++ inner.characters

theorem read?_mappedCharacters (inner : V4) :
    read? (mappedCharacters inner) = some (ofV4 inner) := by
  have dotted := V4.read?_characters inner
  have colon : ':' ∉ inner.characters :=
    (V4.Spelled.of_read? dotted).notMem (by decide) (by decide)
  have pieces : Text.splitOn ':' ("ffff".toList ++ ':' :: inner.characters) =
      ["ffff".toList, inner.characters] := by
    rw [Text.splitOn_append (by decide), Text.splitOn_of_notMem colon]
  have side : readSide? ("ffff".toList ++ ':' :: inner.characters) =
      some (0xffff :: groupsOfV4 inner) := by
    have group : readGroup? "ffff".toList = some 0xffff := by decide
    have last : readPieces? [inner.characters] = some (groupsOfV4 inner) := by
      simp only [readPieces?, dotted]
    rw [readSide?, if_neg (by simp), pieces, readPieces?, group, last]
    · rfl
    · simp
  have gap : splitGap (mappedCharacters inner) =
      some ([], "ffff".toList ++ ':' :: inner.characters) := rfl
  have empty : readSide? [] = some [] := rfl
  rw [read?, gap]
  simp only [empty, side]
  rfl

end V6

namespace IpAddress

variable {text : List Char}

theorem read?_of_v6 {address : V6} (h : V6.read? text = some address) :
    read? text = some (.v6 address) := by
  have plain : V4.read? text = none := by
    cases hv : V4.read? text with
    | none => rfl
    | some other =>
      have colon : ':' ∉ text := (V4.Spelled.of_read? hv).notMem (by decide) (by decide)
      exact absurd (V6.colon_mem_of_read? h) colon
  rw [read?, plain, h]
  rfl

/-- If a spelling of an IPv4 address is a literal, then of this address. -/
theorem eq_of_spelled {address : V4} {ip : IpAddress} (spelled : address.Spelled text)
    (h : read? text = some ip) : ip = .v4 address := by
  unfold read? at h
  split at h
  · rename_i other hv
    obtain rfl := Option.some.inj h
    have loose := V4.readLoose?_eq_some_iff.mpr (V4.Spelled.of_read? hv)
    rw [V4.readLoose?_eq_some_iff.mpr spelled] at loose
    rw [Option.some.inj loose]
  · obtain ⟨address, hv, -⟩ := Option.map_eq_some_iff.mp h
    exact absurd (V6.colon_mem_of_read? hv) (spelled.notMem (by decide) (by decide))

end IpAddress

end TunnelServer
