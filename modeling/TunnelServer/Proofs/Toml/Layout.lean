import TunnelServer.Proofs.Toml.Token

/-!
# Lines are read as they were written

A document that is written line by line, with bare keys and one value to a key, is read back as
these lines.
-/

namespace TunnelServer.Toml.Scanner

variable {name text rest written : List Char} {c : Char} {parts : List (List Char)}

theorem blanks_append (blank : ∀ c ∈ text, isBlank c) (visible : isBlank c = false) :
    blanks (text ++ c :: rest) = some ((), c :: rest) := by
  rw [blanks, bind_of_some (run_append blank visible)]
  rfl

theorem blanks_cons (visible : isBlank c = false) : blanks (c :: rest) = some ((), c :: rest) := by
  have none : ∀ c ∈ ([] : List Char), isBlank c := by simp
  exact blanks_append none visible

theorem accept_cons_self : accept c (c :: rest) = some (true, rest) := if_pos rfl

theorem accept_cons_ne {d : Char} (other : d ≠ c) :
    accept c (d :: rest) = some (false, d :: rest) := if_neg other

theorem expect_cons_self : expect c (c :: rest) = some ((), rest) := if_pos rfl

theorem lineEnd_cons : lineEnd ('\n' :: rest) = some ((), rest) := by
  have plain : accept '#' ('\n' :: rest) = some (false, '\n' :: rest) := accept_cons_ne (by decide)
  have peeked : peek? ('\n' :: rest) = some (some '\n', '\n' :: rest) := rfl
  rw [lineEnd, bind_of_some (blanks_cons (by decide)), bind_of_some plain]
  exact (bind_of_some peeked).trans expect_cons_self

/-- A name that needs no quotes as a key. -/
structure IsBare (name : List Char) : Prop where
  nonempty : name ≠ []
  bare : ∀ c ∈ name, isBareKeyChar c

instance : Decidable (IsBare name) :=
  decidable_of_iff (name ≠ [] ∧ name.all isBareKeyChar)
    ⟨fun h => ⟨h.1, List.all_eq_true.mp h.2⟩, fun h => ⟨h.nonempty, List.all_eq_true.mpr h.bare⟩⟩

/-- What can end a bare key. -/
structure Ends (c : Char) : Prop where
  bare : isBareKeyChar c = false
  visible : isBlank c = false
  dot : c ≠ '.'

theorem keyPart_cons {first : Char} (quote : first ≠ '"') (apostrophe : first ≠ '\'') :
    keyPart (first :: rest) = (do
      let name ← run isBareKeyChar
      if name.isEmpty then failure
      return String.ofList name : Scanner String) (first :: rest) := by
  have peeked : peek? (first :: rest) = some (some first, first :: rest) := rfl
  unfold keyPart
  rw [bind_of_some peeked]
  simp [quote, apostrophe]

theorem keyPart_append (bare : IsBare name) (stops : isBareKeyChar c = false) :
    keyPart (name ++ c :: rest) = some (String.ofList name, c :: rest) := by
  obtain ⟨first, later, rfl⟩ := List.exists_cons_of_ne_nil bare.nonempty
  have letter := bare.bare first List.mem_cons_self
  have quote : first ≠ '"' := by
    rintro rfl
    exact absurd letter (by decide)
  have apostrophe : first ≠ '\'' := by
    rintro rfl
    exact absurd letter (by decide)
  have taken : run isBareKeyChar (first :: (later ++ c :: rest)) =
      some (first :: later, c :: rest) := run_append bare.bare stops
  rw [List.cons_append, keyPart_cons quote apostrophe, bind_of_some taken]
  rfl

theorem isBlank_eq_of_isBareKeyChar (bare : isBareKeyChar c) : isBlank c = false := by
  simp only [isBlank, decide_eq_false_iff_not, not_or]
  constructor
  · rintro rfl
    exact absurd bare (by decide)
  · rintro rfl
    exact absurd bare (by decide)

theorem IsBare.blanks (bare : IsBare name) (rest : List Char) :
    blanks (name ++ rest) = some ((), name ++ rest) := by
  obtain ⟨first, later, rfl⟩ := List.exists_cons_of_ne_nil bare.nonempty
  exact blanks_cons (isBlank_eq_of_isBareKeyChar (bare.bare first List.mem_cons_self))

theorem exists_follower (ends : Ends c) (parts : List (List Char)) (rest : List Char) :
    ∃ d later, parts.flatMap ('.' :: ·) ++ c :: rest = d :: later ∧ isBareKeyChar d = false ∧
      isBlank d = false := by
  cases parts with
  | nil => exact ⟨c, rest, rfl, ends.bare, ends.visible⟩
  | cons next parts => exact ⟨'.', _, rfl, by decide, by decide⟩

theorem keyParts_append (bare : ∀ part ∈ parts, IsBare part) (ends : Ends c) {most : Nat}
    (few : parts.length ≤ most) :
    keyParts most (parts.flatMap ('.' :: ·) ++ c :: rest) =
      some (parts.map String.ofList, c :: rest) := by
  induction parts generalizing most with
  | nil =>
    have single : accept '.' (c :: rest) = some (false, c :: rest) := accept_cons_ne ends.dot
    cases most with
    | zero => exact bind_of_some single
    | succ most => exact bind_of_some single
  | cons part parts ih =>
    cases most with
    | zero => cases few
    | succ most =>
      have next := ih (fun part hp => bare part (List.mem_cons_of_mem _ hp))
        (Nat.le_of_succ_le_succ few)
      have here : IsBare part := bare part List.mem_cons_self
      obtain ⟨d, later, he, stops, visible⟩ := exists_follower ends parts rest
      have dotted : (part :: parts).flatMap ('.' :: ·) ++ c :: rest =
          '.' :: (part ++ d :: later) := by
        simp [← he]
      rw [he] at next
      rw [dotted, keyParts, bind_of_some accept_cons_self, if_pos rfl, bind_of_some (here.blanks _),
        bind_of_some (keyPart_append here stops), bind_of_some (blanks_cons visible),
        bind_of_some next]
      rfl

theorem key_append {blank : List Char} (first : IsBare name) (bare : ∀ part ∈ parts, IsBare part)
    (blanks : ∀ c ∈ blank, isBlank c) (ends : Ends c) (few : parts.length < partLimit) :
    key (name ++ (blank ++ (parts.flatMap ('.' :: ·) ++ c :: rest))) =
      some ((((name :: parts).map String.ofList).dropLast,
        ((name :: parts).map String.ofList).getLastD (String.ofList name)), c :: rest) := by
  obtain ⟨d, later, he, stops, visible⟩ := exists_follower ends parts rest
  have next : keyParts (partLimit - 1) (parts.flatMap ('.' :: ·) ++ c :: rest) =
      some (parts.map String.ofList, c :: rest) :=
    keyParts_append bare ends (Nat.le_sub_one_of_lt few)
  obtain ⟨e, further, hb, stops'⟩ : ∃ e further, blank ++ d :: later = e :: further ∧
      isBareKeyChar e = false := by
    cases blank with
    | nil => exact ⟨d, later, rfl, stops⟩
    | cons e blank =>
      refine ⟨e, _, rfl, ?_⟩
      have empty := blanks e List.mem_cons_self
      apply Bool.eq_false_iff.mpr
      intro bare
      rw [isBlank_eq_of_isBareKeyChar bare] at empty
      cases empty
  rw [he] at next ⊢
  rw [key, bind_of_some (first.blanks _), hb, bind_of_some (keyPart_append first stops'), ← hb,
    bind_of_some (blanks_append blanks visible), bind_of_some next]
  rfl

theorem header_append (first : IsBare name) (bare : ∀ part ∈ parts, IsBare part)
    (few : parts.length < partLimit) :
    header ('[' :: (name ++ (parts.flatMap ('.' :: ·) ++ ']' :: '\n' :: rest))) =
      some (⟨false, ((name :: parts).map String.ofList).dropLast,
        ((name :: parts).map String.ofList).getLastD (String.ofList name)⟩, rest) := by
  have ends : Ends ']' := ⟨by decide, by decide, by decide⟩
  have blank : ∀ c ∈ ([] : List Char), isBlank c := by simp
  have named : key (name ++ (parts.flatMap ('.' :: ·) ++ ']' :: '\n' :: rest)) = some (_, _) :=
    key_append first bare blank ends few
  have single : accept '[' (name ++ (parts.flatMap ('.' :: ·) ++ ']' :: '\n' :: rest)) =
      some (false, name ++ (parts.flatMap ('.' :: ·) ++ ']' :: '\n' :: rest)) := by
    obtain ⟨letter, later, rfl⟩ := List.exists_cons_of_ne_nil first.nonempty
    apply accept_cons_ne
    rintro rfl
    exact absurd (first.bare _ List.mem_cons_self) (by decide)
  rw [header, bind_of_some expect_cons_self, bind_of_some single, bind_of_some named]
  exact (bind_of_some expect_cons_self).trans (bind_of_some lineEnd_cons)

/-- A value that is written this way is read back at the end of a line of a document. -/
structure Stands (written : List Char) (value : Value) : Prop where
  visible : ∃ c text, written = c :: text ∧ isBlank c = false
  unbroken : '\r' ∉ written
  read : ∀ rest, Scanner.value depthLimit (written ++ '\n' :: rest) = some (value, '\n' :: rest)

theorem Denotes.stands {value : Value} (h : Denotes written value) : Stands written value :=
  ⟨h.visible, h.unbroken, h.read depthLimit⟩

theorem assignment_append {value : Value} (bare : IsBare name) (stands : Stands written value) :
    assignment (Scanner.value depthLimit)
      (name ++ ' ' :: '=' :: ' ' :: (written ++ '\n' :: rest)) =
        some (⟨[], String.ofList name, value⟩, '\n' :: rest) := by
  have ends : Ends '=' := ⟨by decide, by decide, by decide⟩
  have blank : ∀ c ∈ [' '], isBlank c := by simp [isBlank]
  have none : ∀ part ∈ ([] : List (List Char)), IsBare part := by simp
  have named : key (name ++ ' ' :: '=' :: ' ' :: (written ++ '\n' :: rest)) =
      some (([], String.ofList name), '=' :: ' ' :: (written ++ '\n' :: rest)) :=
    key_append bare none blank ends (by decide)
  obtain ⟨c, later, rfl, visible⟩ := stands.visible
  have spaced : blanks (' ' :: (c :: later ++ '\n' :: rest)) =
      some ((), c :: later ++ '\n' :: rest) := blanks_append blank visible
  rw [assignment, bind_of_some named]
  refine (bind_of_some expect_cons_self).trans ((bind_of_some spaced).trans ?_)
  exact bind_of_some (stands.read rest)

theorem IsBare.unbroken (bare : IsBare name) : '\r' ∉ name :=
  fun broken => absurd (bare.bare _ broken) (by decide)

/-- A text is read as these lines, if as many lines may be read as it has characters. -/
structure Reads (text : List Char) (found : List Line) : Prop where
  unbroken : '\r' ∉ text
  lines : ∀ bound, text.length < bound → lines bound text = some (found, [])

theorem Reads.nil : Reads [] [] where
  unbroken := by simp
  lines := by
    intro bound enough
    obtain ⟨bound, rfl⟩ := Nat.exists_eq_add_of_lt enough
    rfl

variable {found : List Line}

theorem Reads.blank (h : Reads rest found) : Reads ('\n' :: rest) found where
  unbroken := by simp [h.unbroken]
  lines := by
    intro bound enough
    cases bound with
    | zero => cases enough
    | succ bound =>
      have peeked : peek? ('\n' :: rest) = some (some '\n', '\n' :: rest) := rfl
      rw [Scanner.lines, bind_of_some (blanks_cons (by decide)), bind_of_some peeked]
      exact (bind_of_some lineEnd_cons).trans (h.lines bound (Nat.lt_of_succ_lt_succ enough))

theorem Reads.header (first : IsBare name) (bare : ∀ part ∈ parts, IsBare part)
    (few : parts.length < partLimit) (h : Reads rest found) :
    Reads ('[' :: (name ++ (parts.flatMap ('.' :: ·) ++ ']' :: '\n' :: rest)))
      (.header ⟨false, ((name :: parts).map String.ofList).dropLast,
        ((name :: parts).map String.ofList).getLastD (String.ofList name)⟩ :: found) := by
  constructor
  · have others : '\r' ∉ parts.flatMap ('.' :: ·) := by
      intro broken
      obtain ⟨part, hp, broken⟩ := List.mem_flatMap.mp broken
      rcases List.mem_cons.mp broken with he | broken
      · exact absurd he (by decide)
      · exact (bare part hp).unbroken broken
    simp [first.unbroken, others, h.unbroken]
  · intro bound enough
    cases bound with
    | zero => cases enough
    | succ bound =>
      have room : rest.length < bound := by
        simp only [List.length_cons, List.length_append] at enough
        omega
      have peeked (text : List Char) : peek? ('[' :: text) = some (some '[', '[' :: text) := rfl
      rw [Scanner.lines, bind_of_some (blanks_cons (by decide)), bind_of_some (peeked _)]
      refine (bind_of_some (header_append first bare few)).trans ?_
      exact bind_of_some (h.lines bound room)

theorem Reads.table {key : String} (bare : IsBare key.toList) (h : Reads rest found) :
    Reads ('[' :: (key.toList ++ ']' :: '\n' :: rest)) (.header ⟨false, [], key⟩ :: found) := by
  have none : ∀ part ∈ ([] : List (List Char)), IsBare part := by simp
  simpa using h.header bare none (by decide)

theorem Reads.inside {outer key : String} (first : IsBare outer.toList) (bare : IsBare key.toList)
    (h : Reads rest found) :
    Reads ('[' :: (outer.toList ++ '.' :: (key.toList ++ ']' :: '\n' :: rest)))
      (.header ⟨false, [outer], key⟩ :: found) := by
  have single : ∀ part ∈ [key.toList], IsBare part := by simpa using bare
  have few : 1 < partLimit := by decide
  simpa using h.header first single few

/-- What does not begin as another kind of line is taken for an assignment. -/
theorem lines_eq_assignment {bound : Nat} (visible : isBlank c = false)
    (other : c ∉ ['\n', '#', '[']) :
    lines (bound + 1) (c :: rest) = (do
      let item ← assignment (Scanner.value depthLimit)
      lineEnd
      return .assignment item :: (← lines bound) : Scanner (List Line)) (c :: rest) := by
  simp only [List.mem_cons, List.not_mem_nil, or_false, not_or] at other
  have peeked : peek? (c :: rest) = some (some c, c :: rest) := rfl
  rw [lines, bind_of_some (blanks_cons visible), bind_of_some peeked]
  simp [other]

theorem Reads.assignment {value : Value} (bare : IsBare name) (stands : Stands written value)
    (h : Reads rest found) :
    Reads (name ++ ' ' :: '=' :: ' ' :: (written ++ '\n' :: rest))
      (.assignment ⟨[], String.ofList name, value⟩ :: found) := by
  constructor
  · simp [bare.unbroken, stands.unbroken, h.unbroken]
  · intro bound enough
    cases bound with
    | zero => cases enough
    | succ bound =>
      have room : rest.length < bound := by
        simp only [List.length_cons, List.length_append] at enough
        omega
      have item : Scanner.assignment (Scanner.value depthLimit)
          (name ++ ' ' :: '=' :: ' ' :: (written ++ '\n' :: rest)) =
            some (⟨[], String.ofList name, value⟩, '\n' :: rest) :=
        assignment_append bare stands
      obtain ⟨letter, later, rfl⟩ := List.exists_cons_of_ne_nil bare.nonempty
      have lettered := bare.bare letter List.mem_cons_self
      have other : letter ∉ ['\n', '#', '['] := by
        have marks : ['\n', '#', '['].any isBareKeyChar = false := by decide
        intro hm
        exact List.any_eq_false.mp marks letter hm lettered
      rw [List.cons_append] at item ⊢
      rw [lines_eq_assignment (isBlank_eq_of_isBareKeyChar lettered) other]
      refine (bind_of_some item).trans ((bind_of_some lineEnd_cons).trans ?_)
      exact bind_of_some (h.lines bound room)

end TunnelServer.Toml.Scanner
