import Mathlib.Data.List.DropRight
import Mathlib.Data.List.Induction
import TunnelServer.Proofs.Wire.Padding

/-!
# What a secret keeps of its password

The padding of a secret hides how many code points zero stand at the end of the password, and
nothing else. The password without them, its stem, is what two passwords with the same secret have
in common.
-/

namespace TunnelServer

namespace Utf8

theorem encode_ofList_concat (text : List Char) (c : Char) :
    encode (String.ofList (text ++ [c])) =
      encode (String.ofList text) ++ String.utf8EncodeChar c := by
  simp [encode_eq]

/-- Bytes without the zeros at their end encode the text without the code points zero at its end. -/
theorem rdropWhile_encode (text : List Char) :
    (encode (String.ofList text)).rdropWhile (· = 0) =
      encode (String.ofList (text.rdropWhile (· = '\x00'))) := by
  induction text using List.reverseRecOn with
  | nil => rfl
  | append_singleton text c ih =>
    rw [encode_ofList_concat]
    by_cases null : c = '\x00'
    · subst null
      rw [show String.utf8EncodeChar '\x00' = [0] from rfl,
        List.rdropWhile_concat_pos _ _ _ (by simp), List.rdropWhile_concat_pos _ _ _ (by simp)]
      exact ih
    · -- the last byte of the character is not zero, so nothing is dropped on either side
      obtain none | ⟨bytes, last, split⟩ := List.eq_nil_or_concat' (String.utf8EncodeChar c)
      · exact absurd none String.utf8EncodeChar_ne_nil
      have nonzero : last ≠ 0 := by
        rintro rfl
        apply null
        apply eq_of_zero_mem
        rw [split]
        simp
      rw [split, ← List.append_assoc, List.rdropWhile_concat_neg _ _ _ (by simpa using nonzero),
        List.rdropWhile_concat_neg _ _ _ (by simpa using null), encode_ofList_concat, split,
        List.append_assoc]

end Utf8

namespace Secret

variable {password other : String} {secret : Secret}

/-- A password without the code points zero at its end. -/
def stem (password : String) : String :=
  String.ofList (password.toList.rdropWhile (· = '\x00'))

theorem ofPassword_eq_error_iff {fault : ProtocolError} :
    ofPassword password = .error fault ↔
      64 < (Utf8.encode password).length ∧
        fault = .passwordTooLong (Utf8.encode password).length := by
  rw [ofPassword]
  by_cases fits : (Utf8.encode password).length ≤ length
  · rw [dif_pos fits]
    constructor
    · intro same
      cases same
    · intro long
      exact absurd fits (Nat.not_le.mpr long.1)
  · rw [dif_neg fits, Except.error.injEq]
    exact ⟨fun same => ⟨Nat.lt_of_not_le fits, same.symm⟩, fun long => long.2.symm⟩

theorem ofPassword_eq_ok_iff : ofPassword password = .ok secret ↔
    (Utf8.encode password).length ≤ 64 ∧
      secret.bytes = Utf8.encode password ++
        List.replicate (64 - (Utf8.encode password).length) 0 := by
  rw [ofPassword]
  by_cases fits : (Utf8.encode password).length ≤ length
  · rw [dif_pos fits, Except.ok.injEq]
    constructor
    · rintro rfl
      exact ⟨fits, rfl⟩
    · rintro ⟨-, filled⟩
      cases secret
      simpa [length] using filled.symm
  · rw [dif_neg fits]
    constructor
    · intro same
      cases same
    · intro short
      exact absurd short.1 fits

theorem rdropWhile_append_zeros (bytes : List UInt8) (padding : Nat) :
    (bytes ++ List.replicate padding 0).rdropWhile (· = 0) = bytes.rdropWhile (· = 0) := by
  induction padding with
  | zero => rw [List.replicate_zero, List.append_nil]
  | succ padding ih =>
    rw [List.replicate_succ', ← List.append_assoc, List.rdropWhile_concat_pos _ _ _ (by simp)]
    exact ih

theorem exists_padding (bytes : List UInt8) :
    ∃ padding, bytes = bytes.rdropWhile (· = 0) ++ List.replicate padding 0 := by
  induction bytes using List.reverseRecOn with
  | nil => exact ⟨0, rfl⟩
  | append_singleton bytes b ih =>
    by_cases zero : b = 0
    · obtain ⟨padding, split⟩ := ih
      refine ⟨padding + 1, ?_⟩
      rw [List.rdropWhile_concat_pos _ _ _ (by simpa using zero), List.replicate_succ',
        ← List.append_assoc, ← split, zero]
    · refine ⟨0, ?_⟩
      rw [List.rdropWhile_concat_neg _ _ _ (by simpa using zero), List.replicate_zero,
        List.append_nil]

theorem rdropWhile_bytes (h : ofPassword password = .ok secret) :
    secret.bytes.rdropWhile (· = 0) = Utf8.encode (stem password) := by
  obtain ⟨padding, filled⟩ := bytes_of_ofPassword h
  have encoded := Utf8.rdropWhile_encode password.toList
  rw [String.ofList_toList] at encoded
  rw [filled, rdropWhile_append_zeros, encoded, stem]

theorem eq_of_rdropWhile_eq {bytes bytes' : List UInt8} (lengths : bytes.length = bytes'.length)
    (same : bytes.rdropWhile (· = 0) = bytes'.rdropWhile (· = 0)) : bytes = bytes' := by
  obtain ⟨padding, hb⟩ := exists_padding bytes
  obtain ⟨padding', hb'⟩ := exists_padding bytes'
  have size := congrArg List.length hb
  have size' := congrArg List.length hb'
  rw [List.length_append, List.length_replicate] at size size'
  have paddings : padding = padding' := by
    rw [same] at size
    omega
  rw [hb, hb', same, paddings]

/-- Two passwords have the same secret exactly if they have the same stem. -/
theorem eq_iff_stem_eq {secret' : Secret} (h : ofPassword password = .ok secret)
    (h' : ofPassword other = .ok secret') : secret = secret' ↔ stem password = stem other := by
  have stems := rdropWhile_bytes h
  have stems' := rdropWhile_bytes h'
  constructor
  · rintro rfl
    exact Utf8.encode_injective (stems.symm.trans stems')
  · intro same
    have bytes : secret.bytes = secret'.bytes := by
      apply eq_of_rdropWhile_eq (secret.length_bytes.trans secret'.length_bytes.symm)
      rw [stems, stems', same]
    cases secret
    cases secret'
    simpa using bytes

end Secret

end TunnelServer
