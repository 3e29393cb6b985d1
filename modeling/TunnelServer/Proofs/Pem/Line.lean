import Mathlib.Data.List.Infix
import TunnelServer.Pem.Item

/-!
# The lines of a file of sections

The lines of a file may end in a line feed, in a carriage return, or in both. A line begins a
section if it has a mark at its front and exactly five dashes at its end; blanks do not count there.
-/

namespace TunnelServer.Pem

/-- A character that ends a line. -/
def IsBreak (c : UInt8) : Prop := c = 10 ∨ c = 13

instance : DecidablePred IsBreak := fun c => inferInstanceAs (Decidable (c = 10 ∨ c = 13))

def Unbroken (line : List UInt8) : Prop := ∀ c ∈ line, ¬ IsBreak c

instance : DecidablePred Unbroken := fun line => List.decidableBAll (fun c => ¬ IsBreak c) line

/-- The file begins with these lines, and the rest follows. Only the last line of a file need not be
ended. -/
inductive Layout : List (List UInt8) → List UInt8 → List UInt8 → Prop where
  | done (rest : List UInt8) : Layout [] rest rest
  | lineFeed {line rest file : List UInt8} {lines : List (List UInt8)} (unbroken : Unbroken line)
      (later : Layout lines rest file) : Layout (line :: lines) rest (line ++ 10 :: file)
  | carriageReturn {line rest file : List UInt8} {lines : List (List UInt8)}
      (unbroken : Unbroken line) (later : Layout lines rest file) :
      Layout (line :: lines) rest (line ++ 13 :: file)
  | both {line rest file : List UInt8} {lines : List (List UInt8)} (unbroken : Unbroken line)
      (later : Layout lines rest file) : Layout (line :: lines) rest (line ++ 13 :: 10 :: file)
  | unended {line : List UInt8} (unbroken : Unbroken line) : Layout [line] [] line

variable {line label front stop rest file mark : List UInt8} {lines : List (List UInt8)} {c : UInt8}

/-- Lines with their ends, one behind another. -/
def written (ended : List (List UInt8 × List UInt8)) : List UInt8 :=
  ended.flatMap fun pair => pair.1 ++ pair.2

theorem layout_written (ended : List (List UInt8 × List UInt8)) (rest : List UInt8)
    (unbroken : ∀ pair ∈ ended, Unbroken pair.1)
    (ends : ∀ pair ∈ ended, pair.2 ∈ [[10], [13], [13, 10]]) :
    Layout (ended.map Prod.fst) rest (written ended ++ rest) := by
  induction ended with
  | nil => exact .done rest
  | cons pair ended ih =>
    obtain ⟨line, stop⟩ := pair
    obtain ⟨first, unbroken⟩ := List.forall_mem_cons.mp unbroken
    obtain ⟨stops, ends⟩ := List.forall_mem_cons.mp ends
    have later := ih unbroken ends
    simp only [List.mem_cons, List.not_mem_nil, or_false] at stops
    rw [written, List.flatMap_cons, List.append_assoc, List.append_assoc]
    rcases stops with rfl | rfl | rfl
    · exact .lineFeed first later
    · exact .carriageReturn first later
    · exact .both first later

/-! ## How lines are seen -/

/-- What is seen of a line: the line with an end, and line feeds that count as lines. Nothing is
seen of an empty line that is not ended. -/
inductive Seen (line : List UInt8) : List (List UInt8) → Prop where
  | ended (stop : List UInt8) (extra : List (List UInt8)) (breaks : ∀ c ∈ stop, IsBreak c)
      (feeds : ∀ other ∈ extra, other = [10]) : Seen line ((line ++ stop) :: extra)
  | nothing (empty : line = []) : Seen line []

theorem linesFrom_append (unbroken : Unbroken line) (ends : IsBreak c) (before : List UInt8) :
    linesFrom before (line ++ c :: rest) =
      (before.reverse ++ line ++ [c]) :: linesFrom [] rest := by
  induction line generalizing before with
  | nil =>
    rw [List.nil_append, linesFrom, if_pos (show c = 10 ∨ c = 13 from ends)]
    simp
  | cons d line ih =>
    obtain ⟨hd, unbroken⟩ := List.forall_mem_cons.mp unbroken
    rw [List.cons_append, linesFrom, if_neg (show ¬(d = 10 ∨ d = 13) from hd), ih unbroken]
    simp

theorem linesFrom_unended (unbroken : Unbroken line) (before : List UInt8)
    (some : before.reverse ++ line ≠ []) : linesFrom before line = [before.reverse ++ line] := by
  induction line generalizing before with
  | nil =>
    have filled : before.isEmpty = false := by simpa using some
    simp [linesFrom, filled]
  | cons d line ih =>
    obtain ⟨hd, unbroken⟩ := List.forall_mem_cons.mp unbroken
    rw [linesFrom, if_neg (show ¬(d = 10 ∨ d = 13) from hd), ih unbroken _ (by simp)]
    simp

theorem Layout.seen (h : Layout (line :: lines) rest file) : Unbroken line ∧
    ∃ seen tail, Seen line seen ∧ Layout lines rest tail ∧
      linesFrom [] file = seen ++ linesFrom [] tail := by
  cases h with
  | lineFeed unbroken later =>
    refine ⟨unbroken, _, _, .ended [10] [] ?_ (by simp), later, ?_⟩
    · simp [IsBreak]
    · rw [linesFrom_append unbroken (.inl rfl)]
      rfl
  | carriageReturn unbroken later =>
    refine ⟨unbroken, _, _, .ended [13] [] ?_ (by simp), later, ?_⟩
    · simp [IsBreak]
    · rw [linesFrom_append unbroken (.inr rfl)]
      rfl
  | both unbroken later =>
    refine ⟨unbroken, _, _, .ended [13] [[10]] ?_ (by simp), later, ?_⟩
    · simp [IsBreak]
    · rw [linesFrom_append unbroken (.inr rfl), linesFrom, if_pos (.inl rfl)]
      rfl
  | unended unbroken =>
    refine ⟨unbroken, ?_⟩
    by_cases empty : line = []
    · subst empty
      exact ⟨[], [], .nothing rfl, .done [], rfl⟩
    · refine ⟨_, [], .ended [] [] (by simp) (by simp), .done [], ?_⟩
      rw [linesFrom_unended unbroken [] (by simpa using empty)]
      simp [linesFrom]

theorem isPrefix_append_iff (unbroken : Unbroken mark) (breaks : ∀ c ∈ stop, IsBreak c) :
    mark <+: line ++ stop ↔ mark <+: line := by
  constructor
  · intro h
    rcases List.prefix_or_prefix_of_prefix h (List.prefix_append line stop) with h | ⟨rest, rfl⟩
    · exact h
    · have within : rest <+: stop := (List.prefix_append_right_inj line).mp h
      cases rest with
      | nil => simp
      | cons c rest =>
        have ends : IsBreak c := breaks c (within.subset List.mem_cons_self)
        exact absurd ends (unbroken c (by simp))
  · exact fun h => h.trans (List.prefix_append line stop)

/-! ## The beginning of a section -/

/-- A line begins a section: the label stands between the mark and five dashes, and blanks may stand
among these and behind them. There is more than blanks behind each dash before them, so that no
other dash is counted. -/
structure Opens (label line : List UInt8) : Prop where
  ends : ∃ tail, line = startMark ++ label ++ 45 :: tail ∧ tail.count 45 = 4 ∧
    ∀ c ∈ tail, c = 45 ∨ c = 32
  settled : ∀ front blanks, startMark ++ label = front ++ 45 :: blanks → ∃ c ∈ blanks, c ≠ 32

theorem Opens.isPrefix (h : Opens label line) : startMark <+: line := by
  obtain ⟨tail, rfl, -⟩ := h.ends
  rw [List.append_assoc]
  exact List.prefix_append _ _

/-- A label between the mark and five dashes is the label as it stands, unless it ends in a dash or
a blank. -/
theorem opens_of_eq (written : line = startMark ++ label ++ Utf8.encode "-----")
    (last : label.getLast? = some c) (dash : c ≠ 45) (blank : c ≠ 32) : Opens label line := by
  refine ⟨⟨[45, 45, 45, 45], ?_, by decide, by simp⟩, ?_⟩
  · exact written
  · intro front blanks same
    have ends := congrArg List.getLast? same
    rw [List.getLast?_append, last, List.getLast?_append, List.getLast?_cons] at ends
    cases found : blanks.getLast? with
    | none => simp [found, dash] at ends
    | some d =>
      simp only [found, Option.some_or, Option.getD_some, Option.some.injEq] at ends
      exact ⟨d, List.mem_of_getLast? found, ends ▸ blank⟩

/-- A blank or the end of a line. -/
def IsGap (c : UInt8) : Prop := c = 10 ∨ c = 13 ∨ c = 32

/-- In reverse: nothing but gaps is passed before a dash is met only if there is none. -/
def Clear (reversed : List UInt8) : Prop :=
  ∀ gaps rest, reversed = gaps ++ 45 :: rest → ∃ c ∈ gaps, ¬ IsGap c

theorem clear_cons (plain : c ≠ 45) (h : ¬ IsGap c ∨ Clear rest) : Clear (c :: rest) := by
  intro gaps more same
  cases gaps with
  | nil => exact absurd (List.cons.inj same).1 plain
  | cons d gaps =>
    obtain ⟨rfl, tails⟩ := List.cons.inj same
    rcases h with visible | clear
    · exact ⟨c, List.mem_cons_self, visible⟩
    · obtain ⟨e, he, visible⟩ := clear gaps more tails
      exact ⟨e, List.mem_cons_of_mem _ he, visible⟩

theorem exists_dashes (reversed : List UInt8) : Clear reversed ∨
    ∃ passed rest, reversed = passed ++ 45 :: rest ∧ (∀ c ∈ passed, c = 45 ∨ IsGap c) ∧
      Clear rest := by
  induction reversed with
  | nil => exact .inl fun gaps rest same => by simp at same
  | cons c reversed ih =>
    by_cases plain : c = 45
    · right
      rcases ih with clear | ⟨passed, rest, rfl, all, clear⟩
      · exact ⟨[], reversed, by rw [plain]; rfl, by simp, clear⟩
      · exact ⟨c :: passed, rest, rfl, List.forall_mem_cons.mpr ⟨.inl plain, all⟩, clear⟩
    · by_cases gap : IsGap c
      · rcases ih with clear | ⟨passed, rest, rfl, all, clear⟩
        · exact .inl (clear_cons plain (.inr clear))
        · right
          exact ⟨c :: passed, rest, rfl, List.forall_mem_cons.mpr ⟨.inr gap, all⟩, clear⟩
      · exact .inl (clear_cons plain (.inl gap))

theorem dashesFrom_clear (h : Clear rest) (count : Nat) (before : List UInt8) :
    dashesFrom count before rest = (count, before) := by
  induction rest with
  | nil => rfl
  | cons c rest ih =>
    rw [dashesFrom]
    split
    · rename_i dash
      obtain ⟨d, none, -⟩ := h [] rest (by rw [dash]; rfl)
      cases none
    · split
      · rename_i gap
        apply ih
        intro gaps more same
        obtain ⟨d, hd, visible⟩ := h (c :: gaps) more (by rw [same]; rfl)
        rcases List.mem_cons.mp hd with rfl | hd
        · exact absurd gap visible
        · exact ⟨d, hd, visible⟩
      · rfl

theorem dashesFrom_append {passed : List UInt8} (all : ∀ c ∈ passed, c = 45 ∨ IsGap c)
    (count : Nat) (before : List UInt8) :
    dashesFrom count before (passed ++ 45 :: rest) =
      dashesFrom (count + passed.count 45 + 1) rest rest := by
  induction passed generalizing count before with
  | nil => simp [dashesFrom]
  | cons c passed ih =>
    obtain ⟨hc, all⟩ := List.forall_mem_cons.mp all
    rw [List.cons_append, dashesFrom]
    by_cases dash : c = 45
    · rw [if_pos dash, ih all, dash, List.count_cons_self, Nat.add_right_comm count 1]
      rfl
    · have gap : c = 10 ∨ c = 13 ∨ c = 32 := hc.resolve_left dash
      rw [if_neg dash, if_pos gap, ih all, List.count_cons_of_ne dash]

/-- No mark of a section ends within the dashes behind the label. -/
theorem startMark_isPrefix_of_dashes {passed : List UInt8}
    (h : startMark <+: front ++ 45 :: passed) (all : ∀ c ∈ passed, c = 45 ∨ IsGap c) :
    startMark <+: front := by
  rcases List.prefix_or_prefix_of_prefix h (List.prefix_append front _) with h | ⟨more, same⟩
  · exact h
  · have among : more <+: 45 :: passed := by
      rwa [← same, List.prefix_append_right_inj] at h
    cases more with
    | nil => exact ⟨[], by rw [← same, List.append_nil, List.append_nil]⟩
    | cons c more =>
      obtain ⟨rfl, later⟩ := List.cons_prefix_cons.mp among
      have letter : ∀ k : Fin 12,
          (startMark.drop k).head? = some 45 → 66 ∈ (startMark.drop k).tail := by decide
      have short : front.length < 12 := by
        have length := congrArg List.length same
        have mark : startMark.length = 11 := rfl
        rw [List.length_append, mark] at length
        omega
      have rest : startMark.drop front.length = 45 :: more := by rw [← same, List.drop_left]
      have found := letter ⟨front.length, short⟩
      rw [rest] at found
      have gap := all 66 (later.subset (found rfl))
      simp [IsGap] at gap

theorem exists_split_at_dash {back : List UInt8} (breaks : ∀ c ∈ stop, IsBreak c)
    (whole : line ++ stop = front ++ 45 :: back) :
    ∃ tail, line = front ++ 45 :: tail ∧ back = tail ++ stop := by
  rcases List.append_eq_append_iff.mp whole with ⟨gap, -, ends⟩ | ⟨tail, rfl, ends⟩
  · exact absurd (breaks 45 (by simp [ends])) (by decide)
  · cases tail with
    | nil => exact absurd (breaks 45 (by simp [← show _ = stop from ends])) (by decide)
    | cons c tail =>
      obtain ⟨rfl, later⟩ := List.cons.inj ends
      exact ⟨tail, rfl, later⟩

theorem count_dash_eq_zero (breaks : ∀ c ∈ stop, IsBreak c) : stop.count 45 = 0 :=
  List.count_eq_zero.mpr fun dash => absurd (breaks 45 dash) (by decide)

theorem opens_of_startLabel? (unbroken : Unbroken line) (breaks : ∀ c ∈ stop, IsBreak c)
    (h : startMark <+: line) (read : startLabel? (line ++ stop) = some label) :
    Opens label line := by
  rcases exists_dashes (line ++ stop).reverse with clear | ⟨passed, rest, same, all, clear⟩
  · rw [startLabel?, dashesFrom_clear clear] at read
    cases read
  · rw [startLabel?, same, dashesFrom_append all, dashesFrom_clear clear] at read
    simp only [Nat.zero_add, Option.ite_none_right_eq_some, Option.some.injEq] at read
    obtain ⟨five, rfl⟩ := read
    have whole : line ++ stop = rest.reverse ++ 45 :: passed.reverse := by
      rw [← List.reverse_reverse (line ++ stop), same]
      simp
    obtain ⟨tail, rfl, dashes⟩ := exists_split_at_dash breaks whole
    have all_tail : ∀ c ∈ tail, c = 45 ∨ IsGap c := fun c hc =>
      all c (List.mem_reverse.mp (by rw [dashes]; exact List.mem_append_left _ hc))
    obtain ⟨label, marked⟩ := startMark_isPrefix_of_dashes h all_tail
    rw [← marked, List.drop_left]
    refine ⟨⟨tail, rfl, ?_, ?_⟩, ?_⟩
    · have counts := congrArg (List.count 45) dashes
      rw [List.count_reverse, List.count_append, count_dash_eq_zero breaks] at counts
      omega
    · intro c hc
      have plain := unbroken c (by simp [hc])
      rcases all_tail c hc with dash | feed | carriage | blank
      · exact .inl dash
      · exact absurd (.inl feed) plain
      · exact absurd (.inr carriage) plain
      · exact .inr blank
    · intro front blanks split
      obtain ⟨c, hc, visible⟩ := clear blanks.reverse front.reverse
        (by rw [← List.reverse_reverse rest, ← marked, split]; simp)
      exact ⟨c, List.mem_reverse.mp hc, fun blank => visible (.inr (.inr blank))⟩

theorem Opens.clear (h : Opens label line) (unbroken : Unbroken line) :
    Clear (startMark ++ label).reverse := by
  obtain ⟨⟨tail, rfl, -⟩, settled⟩ := h
  intro gaps rest same
  have split : startMark ++ label = rest.reverse ++ 45 :: gaps.reverse := by
    rw [← List.reverse_reverse (startMark ++ label), same]
    simp
  obtain ⟨c, hc, visible⟩ := settled rest.reverse gaps.reverse split
  have plain : ¬ IsBreak c := unbroken c (by simp [split, List.mem_reverse.mp hc])
  refine ⟨c, List.mem_reverse.mp hc, ?_⟩
  rintro (feed | carriage | blank)
  · exact plain (.inl feed)
  · exact plain (.inr carriage)
  · exact visible blank

theorem Opens.startLabel? (h : Opens label line) (unbroken : Unbroken line)
    (breaks : ∀ c ∈ stop, IsBreak c) : startLabel? (line ++ stop) = some label := by
  have clear := h.clear unbroken
  obtain ⟨tail, rfl, four, dashes⟩ := h.ends
  have turned : (startMark ++ label ++ 45 :: tail ++ stop).reverse =
      (stop.reverse ++ tail.reverse) ++ 45 :: (startMark ++ label).reverse := by
    simp
  have all : ∀ c ∈ stop.reverse ++ tail.reverse, c = 45 ∨ IsGap c := by
    intro c hc
    rcases List.mem_append.mp hc with ends | dash
    · rcases breaks c (List.mem_reverse.mp ends) with feed | carriage
      · exact .inr (.inl feed)
      · exact .inr (.inr (.inl carriage))
    · exact (dashes c (List.mem_reverse.mp dash)).imp id fun blank => .inr (.inr blank)
  rw [Pem.startLabel?, turned, dashesFrom_append all, dashesFrom_clear clear]
  simp [List.count_append, List.count_reverse, count_dash_eq_zero breaks, four]

end TunnelServer.Pem
