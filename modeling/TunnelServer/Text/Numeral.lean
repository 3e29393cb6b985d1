/-! # Numerals

Numbers are written with digits in a base of at most sixteen. Reading accepts digits of both cases
and leading zeros; writing uses small letters and no leading zeros, and what is written reads back.
-/

namespace TunnelServer.Numeral

def hexValue? (c : Char) : Option Nat :=
  if '0' ≤ c ∧ c ≤ '9' then some (c.toNat - 48)
  else if 'a' ≤ c ∧ c ≤ 'f' then some (c.toNat - 87)
  else if 'A' ≤ c ∧ c ≤ 'F' then some (c.toNat - 55)
  else none

/-- The value of a digit in a base of at most sixteen. -/
def digitValue? (base : Nat) (c : Char) : Option Nat :=
  (hexValue? c).filter (· < base)

def isDigit (base : Nat) (c : Char) : Bool := (digitValue? base c).isSome

/-- Reads on after digits that stand for `value`. -/
def readFrom? (base value : Nat) : List Char → Option Nat
  | [] => some value
  | c :: rest =>
    match digitValue? base c with
    | some digit => readFrom? base (value * base + digit) rest
    | none => none

/-- The number that digits stand for; there has to be one at least. -/
def read? (base : Nat) : List Char → Option Nat
  | [] => none
  | c :: rest => readFrom? base 0 (c :: rest)

def digits (base n : Nat) : List Char := Nat.toDigits base n

theorem readFrom?_append (base value : Nat) (first second : List Char) :
    readFrom? base value (first ++ second) =
      (readFrom? base value first).bind (readFrom? base · second) := by
  induction first generalizing value with
  | nil => rfl
  | cons c first ih =>
    simp only [List.cons_append, readFrom?]
    cases digitValue? base c with
    | none => rfl
    | some digit => exact ih _

theorem digitValue?_digitChar {base digit : Nat} (hb : base ≤ 16) (hd : digit < base) :
    digitValue? base (Nat.digitChar digit) = some digit := by
  have h : ∀ d : Fin 16, hexValue? (Nat.digitChar d.val) = some d.val := by decide
  have := h ⟨digit, by omega⟩
  simp only at this
  simp [digitValue?, this, hd]

theorem digits_ne_nil (base n : Nat) (hb : 1 < base) : digits base n ≠ [] := by
  rw [digits, Nat.toDigits_eq_if hb]
  split <;> simp

theorem readFrom?_digits {base : Nat} (hb : 1 < base) (hb' : base ≤ 16) (n : Nat) :
    readFrom? base 0 (digits base n) = some n := by
  induction n using Nat.strongRecOn with
  | ind n ih =>
    rw [digits, Nat.toDigits_eq_if hb]
    split
    · next h => simp [readFrom?, digitValue?_digitChar hb' h]
    · next h =>
      have hlt : n / base < n := Nat.div_lt_self (by omega) hb
      have hprev := ih (n / base) hlt
      rw [digits] at hprev
      rw [readFrom?_append, hprev]
      have hmod : n % base < base := Nat.mod_lt _ (by omega)
      simp only [Option.bind_some, readFrom?, digitValue?_digitChar hb' hmod, Option.some.injEq]
      rw [Nat.mul_comm]
      exact Nat.div_add_mod n base

theorem read?_digits {base : Nat} (hb : 1 < base) (hb' : base ≤ 16) (n : Nat) :
    read? base (digits base n) = some n := by
  have h := readFrom?_digits hb hb' n
  cases hd : digits base n with
  | nil => exact absurd hd (digits_ne_nil base n hb)
  | cons c rest => rw [hd] at h; exact h

theorem head?_digits {n : Nat} (h : (digits 10 n).head? = some '0') : n = 0 := by
  induction n using Nat.strongRecOn with
  | ind n ih =>
    rw [digits, Nat.toDigits_eq_if (by decide)] at h
    split at h
    · rename_i small
      have all : ∀ d : Fin 10, [Nat.digitChar d.val].head? = some '0' → d.val = 0 := by decide
      exact all ⟨n, small⟩ h
    · rename_i large
      have front : (digits 10 (n / 10)).head? = some '0' := by
        obtain ⟨c, text, he⟩ :=
          List.exists_cons_of_ne_nil (digits_ne_nil 10 (n / 10) (by decide))
        rw [digits] at he ⊢
        rwa [he] at h ⊢
      have zero := ih (n / 10) (by omega) front
      omega

def decimal (n : Nat) : String := String.ofList (digits 10 n)

end TunnelServer.Numeral
