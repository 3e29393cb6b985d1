import TunnelServer.Network.Resolver
import TunnelServer.Proofs.Address.Printing

/-!
# Hosts that are literals

A host is a literal of an address if it is a text that is read as this address, by itself or in one
pair of brackets. So the printed form of an address, with brackets or without, is resolved to this
address and nobody else is asked; a bracket without its partner, or a second pair, makes a name.
-/

namespace TunnelServer

namespace SocketAddress

variable {text inner : List Char}

theorem unbracket?_eq_some_iff : unbracket? text = some inner ↔ text = '[' :: inner ++ [']'] := by
  constructor
  · intro h
    unfold unbracket? at h
    split at h
    · rename_i rest
      split at h
      · rename_i back ends
        obtain rfl := Option.some.inj h
        rw [List.reverse_eq_cons_iff.mp ends, List.cons_append]
      · cases h
    · cases h
  · rintro rfl
    simp [unbracket?]

theorem unbracket?_of_notMem (h : '[' ∉ text) : unbracket? text = none := by
  rw [Option.eq_none_iff_forall_ne_some]
  intro inner bracketed
  rw [unbracket?_eq_some_iff.mp bracketed] at h
  simp at h

end SocketAddress

namespace Resolver

open SocketAddress (unbracket?_eq_some_iff unbracket?_of_notMem)

/-- A text by itself, or in one pair of brackets. -/
inductive Encloses (text : List Char) : List Char → Prop where
  | bare : Encloses text text
  | bracketed : Encloses text ('[' :: text ++ [']'])

variable {text : List Char} {host : String} {ip : IpAddress}

theorem withoutBrackets_eq (h : '[' ∉ text) : withoutBrackets text = text := by
  rw [withoutBrackets, unbracket?_of_notMem h]
  rfl

theorem withoutBrackets_bracketed (text : List Char) :
    withoutBrackets ('[' :: text ++ [']']) = text := by
  rw [withoutBrackets, unbracket?_eq_some_iff.mpr rfl]
  rfl

theorem encloses_withoutBrackets (text : List Char) : Encloses (withoutBrackets text) text := by
  cases h : SocketAddress.unbracket? text with
  | none =>
    rw [withoutBrackets, h]
    exact .bare
  | some inner =>
    rw [unbracket?_eq_some_iff.mp h, withoutBrackets_bracketed]
    exact .bracketed

theorem notMem_brackets (read : IpAddress.read? text = some ip) : '[' ∉ text ∧ ']' ∉ text :=
  ⟨IpAddress.notMem_of_read? ⟨by decide, by decide, by decide⟩ read,
    IpAddress.notMem_of_read? ⟨by decide, by decide, by decide⟩ read⟩

theorem literal?_eq_some_iff : literal? host = some ip ↔
    ∃ text, Encloses text host.toList ∧ IpAddress.read? text = some ip := by
  constructor
  · exact fun read => ⟨_, encloses_withoutBrackets host.toList, read⟩
  · rintro ⟨text, encloses, read⟩
    rw [literal?]
    generalize host.toList = written at encloses
    cases encloses with
    | bare => rwa [withoutBrackets_eq (notMem_brackets read).1]
    | bracketed => rwa [withoutBrackets_bracketed]

theorem lookup_system_of_literal (directory : String → Except IoError IpAddress)
    (h : literal? host = some ip) : (system directory).lookup host = ⟨0, .ok ip⟩ := by
  simp only [system, h]

theorem literal?_eq_none (h : ∀ text, Encloses text host.toList → '[' ∈ text ∨ ']' ∈ text) :
    literal? host = none := by
  rw [Option.eq_none_iff_forall_ne_some]
  intro ip found
  obtain ⟨text, encloses, read⟩ := literal?_eq_some_iff.mp found
  rcases h text encloses with opened | closed
  · exact (notMem_brackets read).1 opened
  · exact (notMem_brackets read).2 closed

/-- The printed form of an address, by itself or in one pair of brackets, is resolved to this
address at once, whatever a directory says. A host with a single bracket or with two pairs, one
inside the other, is never taken for an address. -/
theorem printed_host_resolves_to_itself :
    (∀ (ip : IpAddress) (text : List Char), ip.Printed text ↔ text = ip.characters) ∧
    (∀ (ip : IpAddress) (text : List Char) (host : String), ip.Printed text →
      Encloses text host.toList → literal? host = some ip ∧
        ∀ directory, (system directory).lookup host = ⟨0, .ok ip⟩) ∧
    (∀ host : String, host.toList.count '[' + host.toList.count ']' = 1 →
      literal? host = none) ∧
    ∀ (host : String) (inner : List Char),
      host.toList = '[' :: ('[' :: inner ++ [']']) ++ [']'] → literal? host = none := by
  refine ⟨fun ip text => IpAddress.printed_iff, ?_, ?_, ?_⟩
  · intro ip text host printed encloses
    have read : IpAddress.read? text = some ip := by
      rw [IpAddress.printed_iff.mp printed]
      exact ip.read?_characters
    have found := literal?_eq_some_iff.mpr ⟨text, encloses, read⟩
    exact ⟨found, fun directory => lookup_system_of_literal directory found⟩
  · intro host single
    apply literal?_eq_none
    intro text encloses
    generalize host.toList = written at single encloses
    cases encloses with
    | bare =>
      by_contra none
      rw [not_or] at none
      rw [List.count_eq_zero.mpr none.1, List.count_eq_zero.mpr none.2] at single
      cases single
    | bracketed =>
      -- the pair alone is more than one bracket
      simp only [List.cons_append, List.count_cons, List.count_append] at single
      simp at single
      omega
  · intro host inner nested
    apply literal?_eq_none
    intro text encloses
    left
    rw [nested] at encloses
    generalize written : '[' :: ('[' :: inner ++ [']']) ++ [']'] = whole at encloses
    cases encloses with
    | bare => simp [← written]
    | bracketed =>
      have same := (unbracket?_eq_some_iff.mpr written).symm.trans (unbracket?_eq_some_iff.mpr rfl)
      simp [Option.some.inj same]

/-- An address with two runs of two zero groups. -/
def evenRuns : V6 := ⟨[0x2001, 0xdb8, 0, 0, 1, 0, 0, 1], rfl⟩

theorem printed_evenRuns : (IpAddress.v6 evenRuns).Printed "2001:db8::1:0:0:1".toList :=
  IpAddress.printed_iff.mpr (by decide)

theorem printed_host_resolves_to_itself_evenRuns :
    (IpAddress.v6 evenRuns).Printed "2001:db8::1:0:0:1".toList ∧
      literal? "[2001:db8::1:0:0:1]" = some (.v6 evenRuns) ∧
      literal? "[2001:db8::1:0:0:1" = none ∧ literal? "[[2001:db8::1:0:0:1]]" = none := by
  obtain ⟨-, resolves, single, nested⟩ := printed_host_resolves_to_itself
  have inside : Encloses "2001:db8::1:0:0:1".toList "[2001:db8::1:0:0:1]".toList := .bracketed
  exact ⟨printed_evenRuns, (resolves _ _ _ printed_evenRuns inside).1,
    single _ (by decide), nested _ "2001:db8::1:0:0:1".toList (by decide)⟩

end Resolver

end TunnelServer
