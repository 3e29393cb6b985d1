import TunnelServer.Toml.Document
import TunnelServer.Proofs.Toml.Quoting

/-!
# Numbers and truth values are read as they were written

A number that is written in decimal is a token of digits only, so it is no date and no time, and no
number with a point. It is read back if it is within the range of the integers of a document.
-/

namespace TunnelServer.Toml

variable {text rest : List Char} {n : Nat}

/-- Only digits, and one at least. -/
structure IsNumeral (text : List Char) : Prop where
  nonempty : text ≠ []
  digits : ∀ c ∈ text, c.isDigit

theorem IsNumeral.numeral (n : Nat) : IsNumeral (Numeral.digits 10 n) where
  nonempty := Numeral.digits_ne_nil 10 n (by decide)
  digits := fun _ => Nat.isDigit_of_mem_toDigits (by decide) (by decide)

theorem IsNumeral.notMem {c : Char} (h : IsNumeral text) (other : c.isDigit = false) :
    c ∉ text := by
  intro hc
  have digit := h.digits c hc
  rw [other] at digit
  cases digit

theorem isDigit_of_isDigit {c : Char} (h : c.isDigit) : Numeral.isDigit 10 c := by
  have small : c.toNat < 128 := by
    simp only [Char.isDigit, ge_iff_le, Bool.and_eq_true, decide_eq_true_eq,
      UInt32.le_iff_toNat_le] at h
    exact Nat.lt_of_le_of_lt h.2 (by decide)
  have all : ∀ d : Fin 128, (Char.ofNat d.val).isDigit → Numeral.isDigit 10 (Char.ofNat d.val) := by
    decide
  have here := all ⟨c.toNat, small⟩
  rw [Char.ofNat_toNat] at here
  exact here h

theorem joinDigits?_eq (h : IsNumeral text) : joinDigits? 10 text = some text := by
  induction text with
  | nil => exact absurd rfl h.nonempty
  | cons c text ih =>
    have digit := isDigit_of_isDigit (h.digits c List.mem_cons_self)
    cases text with
    | nil => simp [joinDigits?, digit]
    | cons d text =>
      have others : IsNumeral (d :: text) :=
        ⟨by simp, fun c hc => h.digits c (List.mem_cons_of_mem _ hc)⟩
      have joined : d ≠ '_' := by
        rintro rfl
        exact others.notMem rfl List.mem_cons_self
      rw [joinDigits?]
      · simp [digit, ih others]
      · simp
      · simpa using joined

theorem wholeDigits?_digits (n : Nat) :
    wholeDigits? (Numeral.digits 10 n) = some (Numeral.digits 10 n) := by
  have single : ¬ ((Numeral.digits 10 n).head? = some '0' ∧ 1 < (Numeral.digits 10 n).length) := by
    rintro ⟨zero, long⟩
    obtain rfl := Numeral.head?_digits zero
    exact absurd long (by decide)
  rw [wholeDigits?, joinDigits?_eq (.numeral n)]
  exact if_neg single

theorem splitSign_eq (h : IsNumeral text) : splitSign text = (false, text) := by
  unfold splitSign
  split
  · exact absurd List.mem_cons_self (h.notMem rfl)
  · exact absurd List.mem_cons_self (h.notMem rfl)
  · rfl

theorem readInteger?_eq (h : IsNumeral text) : readInteger? text =
    ((wholeDigits? text >>= Numeral.read? 10).map Int.ofNat).bind fun value =>
      if integerRange value then some value else none := by
  have second {c : Char} (other : c.isDigit = false) (later : List Char) :
      '0' :: c :: later ≠ text := by
    rintro rfl
    exact h.notMem other (by simp)
  unfold readInteger?
  split
  · exact absurd rfl (second rfl _)
  · exact absurd rfl (second rfl _)
  · exact absurd rfl (second rfl _)
  · simp only [splitSign_eq h]
    rfl

theorem readInteger?_digits (small : n ≤ 9223372036854775807) :
    readInteger? (Numeral.digits 10 n) = some (Int.ofNat n) := by
  have range : integerRange (Int.ofNat n) = true := by
    simp only [integerRange, Int.ofNat_eq_natCast, decide_eq_true_eq]
    omega
  have value : (wholeDigits? (Numeral.digits 10 n) >>= Numeral.read? 10) = some n := by
    rw [wholeDigits?_digits]
    exact Numeral.read?_digits (by decide) (by decide) n
  rw [readInteger?_eq (.numeral n), value]
  exact if_pos range

theorem fixedDigits?_rest {count value : Nat} (h : fixedDigits? count text = some (value, rest)) :
    rest = text.drop count := by
  simp only [fixedDigits?] at h
  split at h
  · obtain ⟨value, -, he⟩ := Option.map_eq_some_iff.mp h
    exact (congrArg Prod.snd he).symm
  · cases h

theorem afterDate?_eq (h : IsNumeral text) : afterDate? text = none := by
  unfold afterDate?
  cases hf : fixedDigits? 4 text with
  | none => rfl
  | some read =>
    obtain ⟨year, rest⟩ := read
    have dash : '-' ∉ rest := by
      rw [fixedDigits?_rest hf]
      exact fun hm => h.notMem rfl (List.mem_of_mem_drop hm)
    simp only [Option.bind_eq_bind, Option.bind_some]
    split
    · exact absurd List.mem_cons_self dash
    · rfl

theorem afterTime?_eq (h : IsNumeral text) : afterTime? text = none := by
  unfold afterTime? twoDigits?
  cases hf : fixedDigits? 2 text with
  | none => rfl
  | some read =>
    obtain ⟨hours, rest⟩ := read
    have colon : ':' ∉ rest := by
      rw [fixedDigits?_rest hf]
      exact fun hm => h.notMem rfl (List.mem_of_mem_drop hm)
    simp only [Option.bind_eq_bind, Option.bind_some]
    by_cases early : hours ≤ 23
    · simp only [if_pos early, Option.bind_some]
      split
      · exact absurd List.mem_cons_self colon
      · rfl
    · simp only [if_neg early, Option.bind_none]

theorem isDateTime_eq (h : IsNumeral text) : isDateTime text = false := by
  simp [isDateTime, afterDate?_eq h, afterTime?_eq h]

theorem readToken?_digits (small : n ≤ 9223372036854775807) :
    readToken? (Numeral.digits 10 n) = some (.integer n) := by
  have numeral := IsNumeral.numeral n
  have yes : Numeral.digits 10 n ≠ ['t', 'r', 'u', 'e'] := by
    intro he
    exact numeral.notMem (c := 't') rfl (by simp [he])
  have no : Numeral.digits 10 n ≠ ['f', 'a', 'l', 's', 'e'] := by
    intro he
    exact numeral.notMem (c := 'f') rfl (by simp [he])
  rw [readToken?, if_neg yes, if_neg no, isDateTime_eq numeral, readInteger?_digits small]
  rfl

namespace Scanner

variable {α β : Type} {first : Scanner α} {next : α → Scanner β}

theorem bind_of_some {value : α} (h : first text = some (value, rest)) :
    (first >>= next) text = next value rest := by
  simp only [bind, StateT.bind, h, Option.bind_some]

theorem run_append {p : Char → Bool} {c : Char} (all : ∀ c ∈ text, p c) (stops : p c = false) :
    run p (text ++ c :: rest) = some (text, c :: rest) := by
  rw [run, List.takeWhile_append_of_pos all, List.dropWhile_append_of_pos all,
    List.takeWhile_cons_of_neg (by simp [stops]), List.dropWhile_cons_of_neg (by simp [stops]),
    List.append_nil]

theorem literal_token {value : Value} (token : ∀ c ∈ text, isTokenChar c)
    (read : readToken? text = some value) :
    literal (text ++ '\n' :: rest) = some (value, '\n' :: rest) := by
  have apart : ¬ timeFollows text ('\n' :: rest) = true := by simp [timeFollows]
  have here : (get : Scanner (List Char)) ('\n' :: rest) = some ('\n' :: rest, '\n' :: rest) := rfl
  rw [literal, bind_of_some (run_append token (by decide)), bind_of_some here, if_neg apart, read]
  rfl

/-- A value that is written this way is read back at the end of a line. -/
structure Denotes (written : List Char) (value : Value) : Prop where
  /-- It does not begin with blanks, which are passed over before a value. -/
  visible : ∃ c text, written = c :: text ∧ isBlank c = false
  /-- A carriage return may stand only at the end of a line. -/
  unbroken : '\r' ∉ written
  read : ∀ depth rest,
    Scanner.value depth (written ++ '\n' :: rest) = some (value, '\n' :: rest)

theorem exists_valueOver (depth : Nat) : ∃ item, value depth = valueOver item := by
  cases depth with
  | zero => exact ⟨none, rfl⟩
  | succ depth => exact ⟨some (value depth), rfl⟩

theorem exists_write_eq (form : StringForm) (text : List Char) :
    ∃ later, form.write text = '"' :: later ∨ form.write text = '\'' :: later := by
  cases form with
  | basic => exact ⟨_, .inl rfl⟩
  | literal => exact ⟨_, .inr rfl⟩
  | longBasic => exact ⟨_, .inl rfl⟩
  | longLiteral => exact ⟨_, .inr rfl⟩

theorem denotes_writeString (text : String) : Denotes (writeString text) (.string text) := by
  obtain ⟨later, starts⟩ := exists_write_eq (StringForm.choose text.toList) text.toList
  constructor
  · rcases starts with he | he <;> exact ⟨_, later, he, by decide⟩
  · exact notMem_writeString text
  · intro depth rest
    have read : string (writeString text ++ '\n' :: rest) = some (text, '\n' :: rest) :=
      string_writeString text (by simp) (by simp)
    obtain ⟨item, hv⟩ := exists_valueOver depth
    have peeked : peek? (writeString text ++ '\n' :: rest) =
      some ((writeString text ++ '\n' :: rest).head?, writeString text ++ '\n' :: rest) := rfl
    rw [hv]
    unfold valueOver
    rw [bind_of_some peeked]
    rcases starts with he | he
    · have mark : (writeString text ++ '\n' :: rest).head? = some '"' := by
        rw [writeString, he]
        rfl
      rw [mark]
      exact bind_of_some read
    · have mark : (writeString text ++ '\n' :: rest).head? = some '\'' := by
        rw [writeString, he]
        rfl
      rw [mark]
      exact bind_of_some read

theorem isBlank_eq_of_isTokenChar {c : Char} (h : isTokenChar c) :
    isBlank c = false ∧ c ∉ ['"', '\'', '[', '\x7b'] := by
  have blank : isTokenChar ' ' = false ∧ isTokenChar '\t' = false := by decide
  have marks : ['"', '\'', '[', '\x7b'].any isTokenChar = false := by decide
  constructor
  · simp only [isBlank, decide_eq_false_iff_not, not_or]
    constructor
    · rintro rfl
      rw [blank.1] at h
      cases h
    · rintro rfl
      rw [blank.2] at h
      cases h
  · intro hc
    exact List.any_eq_false.mp marks c hc h

theorem valueOver_eq_literal {c : Char} (item : Option (Scanner Value)) (rest : List Char)
    (other : c ∉ ['"', '\'', '[', '\x7b']) : valueOver item (c :: rest) = literal (c :: rest) := by
  simp only [List.mem_cons, List.not_mem_nil, or_false, not_or] at other
  obtain ⟨quote, apostrophe, bracket, brace⟩ := other
  have peeked : peek? (c :: rest) = some (some c, c :: rest) := rfl
  unfold valueOver
  rw [bind_of_some peeked]
  -- the branches for arrays and tables look at the items as well
  split <;> simp_all

theorem denotes_token {value : Value} (nonempty : text ≠ []) (token : ∀ c ∈ text, isTokenChar c)
    (read : readToken? text = some value) : Denotes text value := by
  obtain ⟨c, later, rfl⟩ := List.exists_cons_of_ne_nil nonempty
  obtain ⟨visible, other⟩ := isBlank_eq_of_isTokenChar (token c List.mem_cons_self)
  refine ⟨⟨c, later, rfl, visible⟩, fun broken => absurd (token _ broken) (by decide), ?_⟩
  intro depth rest
  obtain ⟨item, hv⟩ := exists_valueOver depth
  rw [hv, List.cons_append, valueOver_eq_literal item _ other]
  exact literal_token token read

theorem denotes_digits (small : n ≤ 9223372036854775807) : Denotes (Numeral.digits 10 n) (.integer n) := by
  apply denotes_token (Numeral.digits_ne_nil 10 n (by decide)) ?_ (readToken?_digits small)
  intro c hc
  have digit := (IsNumeral.numeral n).digits c hc
  simp [isTokenChar, Char.isAlphanum, digit]

theorem denotes_boolean (value : Bool) :
    Denotes (if value then "true" else "false").toList (.boolean value) := by
  cases value with
  | true => exact denotes_token (by decide) (List.all_eq_true.mp (by decide)) rfl
  | false => exact denotes_token (by decide) (List.all_eq_true.mp (by decide)) rfl

end Scanner

end TunnelServer.Toml
