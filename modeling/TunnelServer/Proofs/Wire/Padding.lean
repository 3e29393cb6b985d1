import TunnelServer.Wire.Secret

/-!
# Passwords and their padding

A password is filled up with zeros to the length of the secret field. Of all characters only the
code point zero is encoded with a zero byte, so the padding cannot be mistaken for any other text;
but a password of such characters only leaves nothing but zeros.
-/

namespace TunnelServer

namespace Utf8

theorem encode_eq (text : String) : encode text = text.toList.flatMap String.utf8EncodeChar := by
  rw [encode, String.toUTF8_eq_toByteArray, ← String.utf8Encode_toList, List.utf8Encode,
    List.toList_data_toByteArray]

theorem zero_ne_ofNat {n : Nat} (positive : 0 < n) (small : n < 256) : 0 ≠ UInt8.ofNat n := by
  intro he
  have same := congrArg UInt8.toNat he
  rw [UInt8.toNat_ofNat_of_lt' small] at same
  exact absurd same (Nat.ne_of_lt positive)

theorem eq_of_zero_mem {c : Char} (h : 0 ∈ String.utf8EncodeChar c) : c = '\x00' := by
  simp only [String.utf8EncodeChar] at h
  split at h
  · rename_i single
    have zero := List.mem_singleton.mp h
    by_cases positive : 0 < c.val.toNat
    · exact absurd zero (zero_ne_ofNat positive (by omega))
    · exact Char.ext (UInt32.toNat_inj.mp (Nat.eq_zero_of_not_pos positive))
  · split at h
    · simp only [List.mem_cons, List.not_mem_nil, or_false] at h
      rcases h with zero | zero <;> exact absurd zero (zero_ne_ofNat (by omega) (by omega))
    · split at h
      · simp only [List.mem_cons, List.not_mem_nil, or_false] at h
        rcases h with zero | zero | zero <;>
          exact absurd zero (zero_ne_ofNat (by omega) (by omega))
      · simp only [List.mem_cons, List.not_mem_nil, or_false] at h
        rcases h with zero | zero | zero | zero <;>
          exact absurd zero (zero_ne_ofNat (by omega) (by omega))

theorem encode_zeros_iff {text : String} :
    (∀ b ∈ encode text, b = 0) ↔ ∀ c ∈ text.toList, c = '\x00' := by
  rw [encode_eq]
  constructor
  · intro zeros c hc
    apply eq_of_zero_mem
    obtain ⟨b, hb⟩ : ∃ b, b ∈ String.utf8EncodeChar c :=
      List.exists_mem_of_ne_nil _ String.utf8EncodeChar_ne_nil
    rwa [zeros b (List.mem_flatMap.mpr ⟨c, hc, hb⟩)] at hb
  · intro null b hb
    obtain ⟨c, hc, hb⟩ := List.mem_flatMap.mp hb
    rw [null c hc] at hb
    exact List.mem_singleton.mp hb

end Utf8

namespace Secret

variable {password : String} {secret : Secret}

theorem bytes_of_ofPassword (h : ofPassword password = .ok secret) :
    ∃ padding, secret.bytes = Utf8.encode password ++ List.replicate padding 0 := by
  simp only [ofPassword] at h
  split at h
  · obtain rfl := Except.ok.inj h
    exact ⟨_, rfl⟩
  · cases h

/-- The secret of an empty password. -/
def blank : Secret := ⟨List.replicate 64 0, rfl⟩

theorem ofPassword_empty : ofPassword "" = .ok blank := rfl

/-- A password has a blank secret exactly if it has no other character than the code point zero. -/
theorem eq_blank_iff (h : ofPassword password = .ok secret) :
    secret = blank ↔ ∀ c ∈ password.toList, c = '\x00' := by
  obtain ⟨padding, filled⟩ := bytes_of_ofPassword h
  have same : secret = blank ↔ secret.bytes = List.replicate 64 0 := by
    cases secret
    simp [blank]
  rw [same, List.eq_replicate_iff, ← Utf8.encode_zeros_iff, filled]
  constructor
  · intro zeros b hb
    exact zeros.2 b (List.mem_append_left _ hb)
  · intro zeros
    refine ⟨filled ▸ secret.length_bytes, fun b hb => ?_⟩
    rcases List.mem_append.mp hb with hb | hb
    · exact zeros b hb
    · exact List.eq_of_mem_replicate hb

end Secret

end TunnelServer
