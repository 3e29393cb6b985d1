import TunnelServer.Toml.StringForm
import TunnelServer.Toml.StringScan

/-!
# Strings are read as they were written

Whatever a string holds, the form that it is written in is read back, up to the closing delimiter
and no further. In the long forms a few delimiters may be pending: they have been seen, but whether
they belong to the text is only known from what comes after them.
-/

namespace TunnelServer.Toml

/-- How a character may stand in a text between quotes. -/
inductive Escapes (c : Char) : List Char → Prop where
  | plain (plain : isPlain c) (quote : c ≠ '"') (backslash : c ≠ '\\') : Escapes c [c]
  | escaped {letter : Char} {code : List Char} (visible : !isBlank letter ∧ letter ≠ '\n')
      (means : ∀ rest, readEscape? (letter :: (code ++ rest)) = some (c, rest)) :
      Escapes c ('\\' :: letter :: code)

theorem escapeMeaning?_escapeLetter? {c letter : Char} (h : escapeLetter? c = some letter) :
    escapeMeaning? letter = some c ∧ (!isBlank letter ∧ letter ≠ '\n') ∧ letter ≠ 'u' ∧
      letter ≠ 'U' := by
  unfold escapeLetter? at h
  repeat' split at h
  all_goals cases h
  all_goals
    subst_vars
    decide

theorem toNat_lt_of_isControl {c : Char} (h : isControl c) : c.toNat < 128 := by
  simp only [isControl, Bool.decide_or, Bool.decide_and, Bool.or_eq_true, Bool.and_eq_true,
    decide_eq_true_eq, Char.lt_def, UInt32.lt_iff_toNat_lt] at h
  rcases h with ⟨low, -⟩ | rfl
  · exact Nat.lt_trans low (by decide)
  · decide

theorem codePoint?_control {c : Char} (h : isControl c) :
    codePoint? ['0', '0', largeHexDigit (c.toNat / 16), largeHexDigit (c.toNat % 16)] = some c := by
  have all : ∀ n : Fin 128, codePoint? ['0', '0', largeHexDigit (n.val / 16),
      largeHexDigit (n.val % 16)] = some (Char.ofNat n.val) := by decide
  have here := all ⟨c.toNat, toNat_lt_of_isControl h⟩
  rwa [Char.ofNat_toNat] at here

theorem escapeChar_escapes (c : Char) : Escapes c (escapeChar c) := by
  unfold escapeChar
  split
  case h_1 letter h =>
    obtain ⟨means, visible, small, large⟩ := escapeMeaning?_escapeLetter? h
    apply Escapes.escaped visible
    intro rest
    have simple : readEscape? (letter :: rest) = (escapeMeaning? letter).map (·, rest) := by
      unfold readEscape?
      split <;> simp_all
    rw [List.nil_append, simple, means, Option.map_some]
  case h_2 none =>
    split
    case isTrue control =>
      apply Escapes.escaped (by decide)
      intro rest
      simp [readEscape?, codePoint?_control control]
    case isFalse visible =>
      simp only [escapeLetter?] at none
      simp only [isControl] at visible
      apply Escapes.plain
      · simp [isPlain]
        grind
      · grind
      · grind

variable {bound : Nat} {done rest text code : List Char} {c : Char}

theorem Escapes.length_pos (h : Escapes c code) : 0 < code.length := by
  cases h <;> simp

theorem readBasic?_step (h : Escapes c code) :
    readBasic? (bound + 1) done (code ++ rest) = readBasic? bound (c :: done) rest := by
  cases h with
  | plain plain quote backslash =>
    simp [readBasic?, quote, backslash, plain]
  | escaped visible means =>
    rw [List.cons_append, List.cons_append, readBasic?]
    simp [means]

theorem readBasic?_written (text rest : List Char) (h : text.length < bound) :
    readBasic? bound done (text.flatMap escapeChar ++ '"' :: rest) =
      some (String.ofList (done.reverse ++ text), rest) := by
  induction text generalizing bound done with
  | nil =>
    obtain ⟨bound, rfl⟩ := Nat.exists_eq_add_of_lt h
    simp [readBasic?]
  | cons c text ih =>
    obtain ⟨bound, rfl⟩ := Nat.exists_eq_add_of_lt h
    rw [List.flatMap_cons, List.append_assoc, readBasic?_step (escapeChar_escapes c), ih (by grind)]
    simp

theorem readLiteral?_written (h : ∀ c ∈ text, isPlain c ∧ c ≠ '\'') :
    readLiteral? (text ++ '\'' :: rest) = some (String.ofList text, rest) := by
  have inside : ∀ c ∈ text, (isPlain c ∧ c ≠ '\'' : Bool) := by simpa using h
  simp only [readLiteral?]
  rw [List.dropWhile_append_of_pos inside, List.takeWhile_append_of_pos inside]
  simp

/-- After the closing three, delimiters belong to the text as long as there are no three of them. -/
theorem closeLong_replicate {mark : Char} {extra : Nat} (few : extra ≤ 2)
    (ends : rest.head? ≠ some mark) :
    closeLong mark done (List.replicate extra mark ++ rest) =
      some (String.ofList (done.reverse ++ List.replicate extra mark), rest) := by
  have stops : rest.takeWhile (· = mark) = [] := by
    cases rest with
    | nil => rfl
    | cons c rest =>
      have other : c ≠ mark := by simpa using ends
      simp [other]
  have length : ((List.replicate extra mark ++ rest).takeWhile (· = mark)).length = extra := by
    rw [List.takeWhile_append_of_pos (by simp), stops]
    simp
  simp only [closeLong, length, if_pos few]
  rw [List.drop_left' (by simp)]

theorem readLongBasic?_cons {c : Char} (h : ∀ later, c :: rest ≠ '"' :: '"' :: '"' :: later) :
    readLongBasic? (bound + 1) done (c :: rest) =
      if c = '\\' then
        if endsLine rest then
          readLongBasic? bound done (rest.dropWhile fun c => isBlank c ∨ c = '\n')
        else do
          let (meaning, rest) ← readEscape? rest
          readLongBasic? bound (meaning :: done) rest
      else if isPlain c ∨ c = '\n' then readLongBasic? bound (c :: done) rest
      else none := by
  rw [readLongBasic?]
  intro later hc hr
  exact h later (by rw [hc, hr])

theorem readLongBasic?_step (h : Escapes c code) :
    readLongBasic? (bound + 1) done (code ++ rest) = readLongBasic? bound (c :: done) rest := by
  cases h with
  | plain plain quote backslash =>
    rw [List.singleton_append, readLongBasic?_cons (by simp [quote])]
    simp [backslash, plain]
  | @escaped letter code visible means =>
    have starts : endsLine (letter :: (code ++ rest)) = false := by
      have blank : isBlank letter = false := by simpa using visible.1
      simp [endsLine, blank, visible.2]
    rw [List.cons_append, List.cons_append, readLongBasic?_cons (by simp), if_pos rfl, starts]
    simp [means]

theorem readLongBasic?_quote (h : ∀ later, rest ≠ '"' :: '"' :: later) :
    readLongBasic? (bound + 1) done ('"' :: rest) = readLongBasic? bound ('"' :: done) rest := by
  have single : ∀ later, '"' :: rest ≠ '"' :: '"' :: '"' :: later := by
    intro later he
    exact h later (List.cons.inj he).2
  have plain : isPlain '"' = true := by decide
  rw [readLongBasic?_cons single]
  simp [plain]

/-- Pending quotes that no third one follows belong to the text. -/
theorem readLongBasic?_pending {quotes : Nat} (few : quotes ≤ 2) (h : rest.head? ≠ some '"') :
    readLongBasic? (bound + quotes) done (List.replicate quotes '"' ++ rest) =
      readLongBasic? bound (List.replicate quotes '"' ++ done) rest := by
  have other : ∀ later, rest ≠ '"' :: later := by
    rintro later rfl
    exact h rfl
  match quotes, few with
  | 0, _ => rfl
  | 1, _ => exact readLongBasic?_quote fun later => other _
  | 2, _ =>
    have first : ∀ later, '"' :: rest ≠ '"' :: '"' :: later := by
      intro later he
      exact other later (List.cons.inj he).2
    exact (readLongBasic?_quote first).trans (readLongBasic?_quote fun later => other _)

theorem replicate_append_three {mark : Char} (count : Nat) (rest : List Char) :
    List.replicate count mark ++ mark :: mark :: mark :: rest =
      mark :: mark :: mark :: (List.replicate count mark ++ rest) := by
  induction count with
  | zero => rfl
  | succ count ih => rw [List.replicate_succ, List.cons_append, ih, List.cons_append]

theorem Escapes.head?_ne (h : Escapes c code) (rest : List Char) :
    (code ++ rest).head? ≠ some '"' := by
  cases h with
  | plain _ quote => simpa using quote
  | escaped => simp

theorem readLongBasic?_settle {quotes : Nat} {tail : List Char} (few : quotes ≤ 2)
    (starts : (code ++ tail).head? ≠ some '"')
    (step : ∀ done, readLongBasic? (bound + 1) done (code ++ tail) =
      readLongBasic? bound (c :: done) tail)
    (next : ∀ done, readLongBasic? bound done tail =
      some (String.ofList (done.reverse ++ text), rest)) :
    readLongBasic? (bound + 1 + quotes) done (List.replicate quotes '"' ++ (code ++ tail)) =
      some (String.ofList (done.reverse ++ List.replicate quotes '"' ++ c :: text), rest) := by
  rw [readLongBasic?_pending few starts, step, next]
  simp

theorem readLongBasic?_written {quotes : Nat} (few : quotes ≤ 2) (ends : rest.head? ≠ some '"')
    (enough : quotes + text.length < bound) :
    readLongBasic? bound done
        (List.replicate quotes '"' ++ (escapeLong quotes text ++ '"' :: '"' :: '"' :: rest)) =
      some (String.ofList (done.reverse ++ List.replicate quotes '"' ++ text), rest) := by
  induction text generalizing quotes bound done with
  | nil =>
    obtain ⟨bound, rfl⟩ := Nat.exists_eq_add_of_lt enough
    rw [escapeLong, List.nil_append, replicate_append_three, readLongBasic?,
      closeLong_replicate few ends, List.append_nil]
    exact Nat.succ_ne_zero _
  | cons c text ih =>
    -- a quote that is written as it stands is pending, everything else settles what is
    by_cases pending : c = '"' ∧ quotes < 2
    · obtain ⟨rfl, fewer⟩ := pending
      have more : escapeLong quotes ('"' :: text) = '"' :: escapeLong (quotes + 1) text := by
        simp [escapeLong, fewer]
      have room : quotes + 1 + text.length < bound := by
        rw [List.length_cons] at enough
        omega
      rw [more]
      simpa [List.replicate_succ'] using ih fewer room
    · obtain ⟨left, rfl, room⟩ : ∃ left, bound = left + 1 + quotes ∧ text.length < left := by
        rw [List.length_cons] at enough
        exact ⟨bound - 1 - quotes, by omega, by omega⟩
      have next (done : List Char) : readLongBasic? left done
          (escapeLong 0 text ++ '"' :: '"' :: '"' :: rest) =
            some (String.ofList (done.reverse ++ text), rest) := by
        rw [← Nat.zero_add text.length] at room
        simpa using ih (Nat.zero_le 2) room
      by_cases newline : c = '\n'
      · have kept : escapeLong quotes (c :: text) = [c] ++ escapeLong 0 text := by
          simp [escapeLong, newline]
        rw [kept, List.append_assoc]
        apply readLongBasic?_settle few
        · simp [newline]
        · intro done
          rw [List.singleton_append, readLongBasic?_cons (by simp [newline])]
          simp [newline]
        · exact next
      · have escaped := escapeChar_escapes c
        have written : escapeLong quotes (c :: text) = escapeChar c ++ escapeLong 0 text := by
          rw [escapeLong, if_neg newline, if_neg pending]
        rw [written, List.append_assoc]
        apply readLongBasic?_settle few (escaped.head?_ne _)
        · intro done
          exact readLongBasic?_step escaped
        · exact next

theorem readLongLiteral?_cons (plain : isPlain c ∨ c = '\n')
    (h : ∀ later, c :: rest ≠ '\'' :: '\'' :: '\'' :: later) :
    readLongLiteral? done (c :: rest) = readLongLiteral? (c :: done) rest := by
  rw [readLongLiteral?]
  · exact if_pos plain
  · intro later hc hr
    exact h later (by rw [hc, hr])

theorem readLongLiteral?_pending {marks : Nat} (few : marks ≤ 2) (h : rest.head? ≠ some '\'') :
    readLongLiteral? done (List.replicate marks '\'' ++ rest) =
      readLongLiteral? (List.replicate marks '\'' ++ done) rest := by
  have other : ∀ later, rest ≠ '\'' :: later := by
    rintro later rfl
    exact h rfl
  have plain : isPlain '\'' ∨ '\'' = '\n' := by decide
  have last (done : List Char) :
      readLongLiteral? done ('\'' :: rest) = readLongLiteral? ('\'' :: done) rest := by
    apply readLongLiteral?_cons plain
    intro later he
    exact other _ (List.cons.inj he).2
  match marks, few with
  | 0, _ => rfl
  | 1, _ => exact last done
  | 2, _ =>
    refine Eq.trans (readLongLiteral?_cons plain ?_) (last _)
    intro later he
    exact other later (List.cons.inj (List.cons.inj he).2).2

theorem hasTriple_of_cons {mark : Char} (h : hasTriple mark (c :: text) = false) :
    hasTriple mark text = false := by
  match text with
  | [] | [_] => rfl
  | b :: d :: text =>
    rw [hasTriple] at h
    exact (Bool.or_eq_false_iff.mp h).2

theorem hasTriple_of_append {mark : Char} (h : hasTriple mark (text ++ rest) = false) :
    hasTriple mark rest = false := by
  induction text with
  | nil => exact h
  | cons c text ih => exact ih (hasTriple_of_cons h)

theorem readLongLiteral?_written {marks : Nat} (few : marks ≤ 2) (ends : rest.head? ≠ some '\'')
    (plain : ∀ c ∈ text, isPlain c ∨ c = '\n')
    (single : hasTriple '\'' (List.replicate marks '\'' ++ text) = false) :
    readLongLiteral? done
        (List.replicate marks '\'' ++ (text ++ '\'' :: '\'' :: '\'' :: rest)) =
      some (String.ofList (done.reverse ++ List.replicate marks '\'' ++ text), rest) := by
  induction text generalizing marks done with
  | nil =>
    rw [List.nil_append, replicate_append_three, readLongLiteral?, closeLong_replicate few ends,
      List.append_nil]
  | cons c text ih =>
    have others : ∀ c ∈ text, isPlain c ∨ c = '\n' :=
      fun c hc => plain c (List.mem_cons_of_mem _ hc)
    by_cases pending : c = '\''
    · subst pending
      have fewer : marks + 1 ≤ 2 := by
        rcases Nat.lt_or_eq_of_le few with less | rfl
        · exact less
        · simp [List.replicate, hasTriple] at single
      have later : hasTriple '\'' (List.replicate (marks + 1) '\'' ++ text) = false := by
        simpa [List.replicate_succ'] using single
      simpa [List.replicate_succ'] using ih fewer others later
    · have later : hasTriple '\'' (List.replicate 0 '\'' ++ text) = false :=
        hasTriple_of_cons (hasTriple_of_append single)
      have starts : (c :: (text ++ '\'' :: '\'' :: '\'' :: rest)).head? ≠ some '\'' := by
        simpa using pending
      rw [List.cons_append, readLongLiteral?_pending few starts,
        readLongLiteral?_cons (plain c List.mem_cons_self) (by simp [pending])]
      simpa using @ih (c :: (List.replicate marks '\'' ++ done)) 0 (Nat.zero_le 2) others later

/-- What a text must be like to stand in a form as it is. -/
def StringForm.Fits (text : List Char) : StringForm → Prop
  | .basic | .longBasic => True
  | .literal => ∀ c ∈ text, isPlain c ∧ c ≠ '\''
  | .longLiteral => (∀ c ∈ text, isPlain c ∨ c = '\n') ∧ hasTriple '\'' text = false

theorem isPlain_or_eq_newline (h : needsEscape c = false) : isPlain c ∨ c = '\n' := by
  simp only [needsEscape, isControl] at h
  simp only [isPlain]
  grind

theorem StringForm.fits_lastResort (text : List Char) : (lastResort text).Fits text := by
  unfold lastResort
  split <;> trivial

theorem StringForm.fits_choose (text : List Char) : (choose text).Fits text := by
  unfold choose
  split
  · exact fits_lastResort text
  · rename_i visible
    have plain : ∀ c ∈ text, isPlain c ∨ c = '\n' := by
      intro c hc
      apply isPlain_or_eq_newline
      simp only [List.any_eq_true, not_exists, not_and, Bool.not_eq_true] at visible
      exact visible c hc
    split
    · trivial
    split
    · rename_i unquoted
      intro c hc
      refine ⟨(plain c hc).resolve_right ?_, ?_⟩
      · rintro rfl
        exact unquoted.2 hc
      · rintro rfl
        exact unquoted.1 hc
    split
    · trivial
    split
    · rename_i single
      exact ⟨plain, by simpa using single⟩
    · exact fits_lastResort text

namespace Scanner

theorem string_short {mark : Char} (h : ∀ later, rest ≠ mark :: mark :: later) :
    string (mark :: rest) = shortString (mark :: rest) := by
  unfold string
  split
  · rename_i he
    cases he
    exact absurd rfl (h _)
  · rename_i he
    cases he
    exact absurd rfl (h _)
  · rfl

theorem dropBreak_leadingBreak (h : '\n' ∉ text → rest.head? ≠ some '\n') :
    dropBreak (leadingBreak text ++ rest) = rest := by
  unfold leadingBreak
  split
  · rfl
  · rename_i single
    have other : ∀ later, rest ≠ '\n' :: later := by
      rintro later rfl
      exact h single rfl
    unfold dropBreak
    split
    · rename_i later he
      exact absurd he (other later)
    · rfl

theorem length_le_flatMap_escapeChar (text : List Char) :
    text.length ≤ (text.flatMap escapeChar).length := by
  induction text with
  | nil => exact Nat.le_refl 0
  | cons c text ih =>
    have some := (escapeChar_escapes c).length_pos
    rw [List.flatMap_cons, List.length_append, List.length_cons]
    omega

theorem head?_escapeLong_ne (quotes : Nat) (other : c ≠ '\n') (rest : List Char) :
    (escapeLong quotes (c :: text) ++ rest).head? ≠ some '\n' := by
  have escaped := escapeChar_escapes c
  unfold escapeLong
  rw [if_neg other]
  split
  · simp
  · generalize escapeChar c = code at escaped
    cases escaped with
    | plain => simpa using other
    | escaped => simp

theorem length_le_escapeLong (quotes : Nat) (text : List Char) :
    text.length ≤ (escapeLong quotes text).length := by
  induction text generalizing quotes with
  | nil => exact Nat.le_refl 0
  | cons c text ih =>
    have some := (escapeChar_escapes c).length_pos
    have rest := ih 0
    have pending := ih (quotes + 1)
    unfold escapeLong
    split
    · simpa using rest
    split
    · simpa using pending
    · rw [List.length_append, List.length_cons]
      omega

theorem string_basic (text : List Char) (quote : rest.head? ≠ some '"') :
    string (StringForm.basic.write text ++ rest) = some (String.ofList text, rest) := by
  have shape : StringForm.basic.write text ++ rest =
      '"' :: (text.flatMap escapeChar ++ '"' :: rest) := by simp [StringForm.write]
  have size := length_le_flatMap_escapeChar text
  rw [shape, string_short]
  · apply readBasic?_written
    rw [List.length_append]
    omega
  · cases text with
    | nil =>
      rintro later he
      simp only [List.flatMap_nil, List.nil_append, List.cons.injEq, true_and] at he
      exact quote (by rw [he, List.head?_cons])
    | cons c text =>
      rintro later he
      have starts := (escapeChar_escapes c).head?_ne (text.flatMap escapeChar ++ '"' :: rest)
      rw [List.flatMap_cons, List.append_assoc] at he
      exact starts (by rw [he, List.head?_cons])

theorem string_literal (fits : StringForm.literal.Fits text) (apostrophe : rest.head? ≠ some '\'') :
    string (StringForm.literal.write text ++ rest) = some (String.ofList text, rest) := by
  have shape : StringForm.literal.write text ++ rest = '\'' :: (text ++ '\'' :: rest) := by
    simp [StringForm.write]
  rw [shape, string_short]
  · exact readLiteral?_written fits
  · cases text with
    | nil =>
      rintro later he
      simp only [List.nil_append, List.cons.injEq, true_and] at he
      exact apostrophe (by rw [he, List.head?_cons])
    | cons c text =>
      rintro later he
      exact (fits c List.mem_cons_self).2 (List.cons.inj he).1

theorem string_longBasic (text : List Char) (quote : rest.head? ≠ some '"') :
    string (StringForm.longBasic.write text ++ rest) = some (String.ofList text, rest) := by
  have shape : StringForm.longBasic.write text ++ rest = '"' :: '"' :: '"' ::
      (leadingBreak text ++ (escapeLong 0 text ++ '"' :: '"' :: '"' :: rest)) := by
    simp [StringForm.write]
  have size := length_le_escapeLong 0 text
  have room : 0 + text.length < (leadingBreak text ++
      (escapeLong 0 text ++ '"' :: '"' :: '"' :: rest)).length + 1 := by
    rw [List.length_append, List.length_append]
    omega
  rw [shape]
  show readLongBasic? _ [] (dropBreak _) = _
  rw [dropBreak_leadingBreak]
  · simpa using @readLongBasic?_written _ [] rest text 0 (Nat.zero_le 2) quote room
  · intro single
    cases text with
    | nil => simp [escapeLong]
    | cons c text =>
      have other : c ≠ '\n' := fun he => single (by simp [he])
      exact head?_escapeLong_ne 0 other _

theorem string_longLiteral (fits : StringForm.longLiteral.Fits text)
    (apostrophe : rest.head? ≠ some '\'') :
    string (StringForm.longLiteral.write text ++ rest) = some (String.ofList text, rest) := by
  have shape : StringForm.longLiteral.write text ++ rest = '\'' :: '\'' :: '\'' ::
      (leadingBreak text ++ (text ++ '\'' :: '\'' :: '\'' :: rest)) := by
    simp [StringForm.write]
  rw [shape]
  show readLongLiteral? [] (dropBreak _) = _
  rw [dropBreak_leadingBreak]
  · simpa using @readLongLiteral?_written [] rest text 0 (Nat.zero_le 2) apostrophe fits.1 fits.2
  · intro single
    cases text with
    | nil => simp
    | cons c text =>
      have other : c ≠ '\n' := fun he => single (by simp [he])
      simpa using other

/-- Every form is read back, up to its end. -/
theorem string_write (form : StringForm) (fits : form.Fits text) (quote : rest.head? ≠ some '"')
    (apostrophe : rest.head? ≠ some '\'') :
    string (form.write text ++ rest) = some (String.ofList text, rest) := by
  cases form with
  | basic => exact string_basic text quote
  | literal => exact string_literal fits apostrophe
  | longBasic => exact string_longBasic text quote
  | longLiteral => exact string_longLiteral fits apostrophe

theorem string_writeString (text : String) (quote : rest.head? ≠ some '"')
    (apostrophe : rest.head? ≠ some '\'') :
    string (writeString text ++ rest) = some (text, rest) := by
  have read := string_write _ (StringForm.fits_choose text.toList) quote apostrophe
  rwa [String.ofList_toList] at read

end Scanner

theorem notMem_escapeChar (c : Char) : '\r' ∉ escapeChar c := by
  have digit : ∀ n : Fin 128, '\r' ∉ [largeHexDigit (n.val / 16), largeHexDigit (n.val % 16)] := by
    decide
  unfold escapeChar
  split
  · rename_i letter h
    have means := (escapeMeaning?_escapeLetter? h).1
    simp only [List.mem_cons, List.not_mem_nil, or_false, not_or]
    refine ⟨by decide, ?_⟩
    rintro rfl
    cases means
  · split
    · rename_i control
      have digits := digit ⟨c.toNat, toNat_lt_of_isControl control⟩
      simpa using digits
    · rename_i visible
      simp only [List.mem_singleton]
      rintro rfl
      exact visible (by decide)

theorem notMem_escapeLong (quotes : Nat) (text : List Char) : '\r' ∉ escapeLong quotes text := by
  induction text generalizing quotes with
  | nil => simp [escapeLong]
  | cons c text ih =>
    unfold escapeLong
    split
    · simp [ih]
    split
    · simp [ih]
    · simp [ih, notMem_escapeChar]

theorem notMem_write {form : StringForm} (fits : form.Fits text) : '\r' ∉ form.write text := by
  have unplain : ¬ (isPlain '\r' ∨ '\r' = '\n') := by decide
  have unbroken : '\r' ∉ leadingBreak text := by
    unfold leadingBreak
    split <;> simp
  cases form with
  | basic => simp [StringForm.write, notMem_escapeChar]
  | literal =>
    have inside : '\r' ∉ text := fun h => unplain (.inl (fits _ h).1)
    simp [StringForm.write, inside]
  | longBasic => simp [StringForm.write, unbroken, notMem_escapeLong]
  | longLiteral =>
    have inside : '\r' ∉ text := fun h => unplain (fits.1 _ h)
    simp [StringForm.write, unbroken, inside]

theorem notMem_writeString (text : String) : '\r' ∉ writeString text :=
  notMem_write (StringForm.fits_choose text.toList)

end TunnelServer.Toml
