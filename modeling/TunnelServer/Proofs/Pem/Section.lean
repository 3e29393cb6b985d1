import TunnelServer.Proofs.Pem.Line
import TunnelServer.Proofs.Text.Base64

/-!
# What is read of a file of sections

Complete sections are read one after another, whatever lines stand among them, and what is read of
the lines behind them does not depend on them. The reading of a file fails where a section is not
ended, does not begin as it has to or holds no base64, at any place in any section.
-/

namespace TunnelServer.Pem

/-- A complete section. -/
structure Block where
  label : List UInt8
  bytes : List UInt8

/-- The lines are complete sections, with any lines among them that begin none. -/
inductive Complete : List (List UInt8) → List Block → Prop where
  | done : Complete [] []
  | remark {line : List UInt8} {lines : List (List UInt8)} {sections : List Block}
      (plain : ¬ startMark <+: line) (later : Complete lines sections) :
      Complete (line :: lines) sections
  | body {label bytes start stop : List UInt8} {inner lines : List (List UInt8)}
      {sections : List Block} (opens : Opens label start)
      (denotes : Base64.Denotes inner.flatten bytes) (ends : endMark label <+: stop)
      (later : Complete lines sections) :
      Complete (start :: (inner ++ stop :: lines)) (⟨label, bytes⟩ :: sections)

/-- These lines leave a section open, with this label and these lines in it. Where another begins in
it, the lines so far are counted to that. -/
inductive Open : List (List UInt8) → List UInt8 → List (List UInt8) → Prop where
  | start {label line : List UInt8} (opens : Opens label line) : Open [line] label []
  | again {label other line : List UInt8} {lines inner : List (List UInt8)}
      (before : Open lines other inner) (opens : Opens label line) :
      Open (lines ++ [line]) label inner
  | within {label line : List UInt8} {lines inner : List (List UInt8)}
      (before : Open lines label inner) (plain : ¬ startMark <+: line)
      (on : ¬ endMark label <+: line) : Open (lines ++ [line]) label (inner ++ [line])

/-- These lines lead to a fault, with this rest of the file behind them. -/
inductive Trouble : List (List UInt8) → List UInt8 → Prop where
  | unfinished {label : List UInt8} {lines inner : List (List UInt8)} (h : Open lines label inner) :
      Trouble lines []
  | badStart {line : List UInt8} {lines : List (List UInt8)} (rest : List UInt8)
      (lead : lines = [] ∨ ∃ label inner, Open lines label inner) (marked : startMark <+: line)
      (bad : ∀ label, ¬ Opens label line) : Trouble (lines ++ [line]) rest
  | badBase64 {line : List UInt8} {lines inner : List (List UInt8)} (rest : List UInt8)
      (h : Open lines (Utf8.encode Kind.certificate.label) inner)
      (bad : ∀ bytes, ¬ Base64.Denotes inner.flatten bytes)
      (ends : endMark (Utf8.encode Kind.certificate.label) <+: line) :
      Trouble (lines ++ [line]) rest

variable {label line start stop rest file : List UInt8} {body inner lines more : List (List UInt8)}
  {seen : List (List UInt8)} {current : Option (List UInt8)} {sections : List Block}

/-! ## Marks -/

theorem startMark_eq : startMark = [45, 45, 45, 45, 45, 66, 69, 71, 73, 78, 32] := rfl

theorem endMark_eq (label : List UInt8) : endMark label =
    [45, 45, 45, 45, 45, 69, 78, 68, 32] ++ label ++ [45, 45, 45, 45, 45] := rfl

theorem not_startMark_of_endMark (h : endMark label <+: line) : ¬ startMark <+: line := by
  intro other
  have mark : [45, 45, 45, 45, 45, 69, 78, 68, 32] <+: line := by
    refine List.IsPrefix.trans ?_ h
    rw [endMark_eq, List.append_assoc]
    exact List.prefix_append _ _
  rw [startMark_eq] at other
  have within := List.prefix_of_prefix_length_le mark other (by decide)
  exact absurd within (by decide)

theorem dash_mem_startMark : 45 ∈ startMark := by
  rw [startMark_eq]
  decide

theorem dash_mem_endMark (label : List UInt8) : 45 ∈ endMark label := by simp [endMark_eq]

/-- A mark holds dashes, so that no line of base64 begins with it. -/
theorem not_isPrefix_of_denotes {mark bytes : List UInt8} (dash : 45 ∈ mark)
    (h : Base64.Denotes inner.flatten bytes) (inside : line ∈ inner) : ¬ mark <+: line := by
  intro front
  have found : 45 ∈ inner.flatten := List.mem_flatten_of_mem inside (front.subset dash)
  exact h.notMem (by decide) (by decide) (by decide) found

theorem Kind.ofLabel?_eq_some_iff {kind : Kind} :
    Kind.ofLabel? label = some kind ↔ label = Utf8.encode kind.label := by
  constructor
  · intro h
    have found := List.find?_some (show Kind.all.find? _ = some kind from h)
    exact (of_decide_eq_true found).symm
  · rintro rfl
    cases kind <;> rfl

/-! ## One line -/

/-- What counts of the lines in a section, the last of which comes first. -/
def visible (body : List (List UInt8)) : List UInt8 :=
  body.reverse.flatten.filter fun c => !Base64.isBlank c

theorem visible_cons : visible (line :: body) =
    visible body ++ line.filter fun c => !Base64.isBlank c := by
  simp [visible]

theorem readLines_congr {other : List (List UInt8)} (same : visible body = visible other) :
    readLines current body lines = readLines current other lines := by
  induction lines generalizing current body other with
  | nil => cases current <;> rfl
  | cons line lines ih =>
    have decoded : Base64.decode? body.reverse.flatten = Base64.decode? other.reverse.flatten :=
      congrArg Base64.decodeGroups? same
    have longer : visible (line :: body) = visible (line :: other) := by
      rw [visible_cons, visible_cons, same]
    cases current with
    | none => simp only [readLines, ih same]
    | some label => simp only [readLines, ih same, ih longer, decoded]

theorem filter_breaks (breaks : ∀ c ∈ stop, IsBreak c) :
    stop.filter (fun c => !Base64.isBlank c) = [] := by
  rw [List.filter_eq_nil_iff]
  intro c hc
  rcases breaks c hc with rfl | rfl <;> decide

theorem not_isPrefix_feed {mark : List UInt8} (dash : 45 ∈ mark) : ¬ mark <+: [10] := by
  intro front
  have found := front.subset dash
  simp at found

theorem readLines_feeds {extra : List (List UInt8)} (feeds : ∀ other ∈ extra, other = [10]) :
    readLines current body (extra ++ more) = readLines current body more := by
  induction extra generalizing body with
  | nil => rfl
  | cons feed extra ih =>
    obtain ⟨rfl, later⟩ := List.forall_mem_cons.mp feeds
    have plain : ¬ startMark <+: [10] := not_isPrefix_feed dash_mem_startMark
    cases current with
    | none => simp [readLines, plain, ih later]
    | some label =>
      have on : ¬ endMark label <+: [10] := not_isPrefix_feed (dash_mem_endMark label)
      have same : visible ([10] :: body) = visible body := by
        rw [visible_cons, filter_breaks (by simp [IsBreak]), List.append_nil]
      simp [readLines, plain, on, ih later, readLines_congr same]

theorem unbroken_startMark : Unbroken startMark := by
  rw [startMark_eq]
  decide

theorem unbroken_endMark (h : Unbroken label) : Unbroken (endMark label) := by
  have front : Unbroken [45, 45, 45, 45, 45, 69, 78, 68, 32] := by decide
  have back : Unbroken [45, 45, 45, 45, 45] := by decide
  rw [endMark_eq]
  exact List.forall_mem_append.mpr ⟨List.forall_mem_append.mpr ⟨front, h⟩, back⟩

theorem Opens.unbroken (h : Opens label line) (unbroken : Unbroken line) : Unbroken label := by
  obtain ⟨tail, rfl, -⟩ := h.ends
  exact fun c hc => unbroken c (by simp [hc])

theorem readLines_remark (plain : ¬ startMark <+: line) (h : Seen line seen) :
    readLines none body (seen ++ more) = readLines none body more := by
  cases h with
  | ended stop extra breaks feeds =>
    have other := (isPrefix_append_iff unbroken_startMark breaks).not.mpr plain
    simp [readLines, other, readLines_feeds feeds]
  | nothing => rfl

theorem readLines_marked (marked : startMark <+: line) :
    readLines current body (line :: more) =
      match startLabel? line with
      | none => ⟨[], some (.badStart line)⟩
      | some label => readLines (some label) body more := by
  cases read : startLabel? line <;> cases current <;> simp [readLines, marked, read]

theorem readLines_start (opens : Opens label line) (unbroken : Unbroken line)
    (h : Seen line seen) :
    readLines current body (seen ++ more) = readLines (some label) body more := by
  cases h with
  | ended stop extra breaks feeds =>
    have marked := (isPrefix_append_iff unbroken_startMark breaks).mpr opens.isPrefix
    rw [List.cons_append, readLines_marked marked, opens.startLabel? unbroken breaks]
    exact readLines_feeds feeds
  | nothing empty =>
    have mark := opens.isPrefix
    rw [empty] at mark
    exact absurd mark (by simp [startMark_eq])

theorem readLines_badStart (marked : startMark <+: line) (bad : ∀ label, ¬ Opens label line)
    (unbroken : Unbroken line) (h : Seen line seen) :
    ∃ fault, readLines current body (seen ++ more) = ⟨[], some fault⟩ := by
  cases h with
  | ended stop extra breaks feeds =>
    refine ⟨.badStart (line ++ stop), ?_⟩
    have same := (isPrefix_append_iff unbroken_startMark breaks).mpr marked
    have read : startLabel? (line ++ stop) = none := by
      rw [Option.eq_none_iff_forall_ne_some]
      exact fun label read => bad label (opens_of_startLabel? unbroken breaks marked read)
    rw [List.cons_append, readLines_marked same, read]
  | nothing empty =>
    rw [empty] at marked
    exact absurd marked (by simp [startMark_eq])

theorem readLines_within (plain : ¬ startMark <+: line) (on : ¬ endMark label <+: line)
    (unbroken : Unbroken label) (h : Seen line seen) :
    readLines (some label) body (seen ++ more) = readLines (some label) (line :: body) more := by
  cases h with
  | ended stop extra breaks feeds =>
    have other := (isPrefix_append_iff unbroken_startMark breaks).not.mpr plain
    have inside := (isPrefix_append_iff (unbroken_endMark unbroken) breaks).not.mpr on
    have same : visible ((line ++ stop) :: body) = visible (line :: body) := by
      rw [visible_cons, visible_cons, List.filter_append, filter_breaks breaks, List.append_nil]
    simp [readLines, other, inside, readLines_feeds feeds, readLines_congr same]
  | nothing empty =>
    have same : visible (line :: body) = visible body := by
      rw [visible_cons, empty, List.filter_nil, List.append_nil]
    exact (readLines_congr same).symm

/-- The item of a section, if sections with its label are of any use. -/
def Block.item? (piece : Block) : Option Item :=
  (Kind.ofLabel? piece.label).map fun kind => ⟨kind, piece.bytes⟩

/-- What follows these items. -/
def Contents.behind (items : List Item) (later : Contents) : Contents :=
  ⟨items ++ later.items, later.fault⟩

theorem readLines_stop {bytes : List UInt8} (ends : endMark label <+: line)
    (denotes : Base64.Denotes body.reverse.flatten bytes) (h : Seen line seen) :
    readLines (some label) body (seen ++ more) =
      (readLines none [] more).behind (Block.item? ⟨label, bytes⟩).toList := by
  cases h with
  | ended stop extra breaks feeds =>
    have marked := ends.trans (List.prefix_append line stop)
    have other := not_startMark_of_endMark marked
    have decoded := Base64.decode?_eq_some_iff.mpr denotes
    cases kind : Kind.ofLabel? label with
    | none => simp [readLines, other, marked, kind, readLines_feeds feeds, Block.item?,
        Contents.behind]
    | some kind' => simp [readLines, other, marked, kind, decoded, readLines_feeds feeds,
        Block.item?, Contents.behind]
  | nothing empty =>
    have dash := ends.subset (dash_mem_endMark label)
    rw [empty] at dash
    cases dash

theorem readLines_badBase64 (ends : endMark (Utf8.encode Kind.certificate.label) <+: line)
    (bad : ∀ bytes, ¬ Base64.Denotes body.reverse.flatten bytes) (h : Seen line seen) :
    readLines (some (Utf8.encode Kind.certificate.label)) body (seen ++ more) =
      ⟨[], some .badBase64⟩ := by
  cases h with
  | ended stop extra breaks feeds =>
    have marked := ends.trans (List.prefix_append line stop)
    have other := not_startMark_of_endMark marked
    have decoded : Base64.decode? body.reverse.flatten = none := by
      rw [Option.eq_none_iff_forall_ne_some]
      exact fun bytes read => bad bytes (Base64.decode?_eq_some_iff.mp read)
    have kind := Kind.ofLabel?_eq_some_iff.mpr (rfl : _ = Utf8.encode Kind.certificate.label)
    simp [readLines, other, marked, kind, decoded]
  | nothing empty =>
    have dash := ends.subset (dash_mem_endMark _)
    rw [empty] at dash
    cases dash

/-! ## Many lines -/

theorem Open.append {front : List (List UInt8)} (h : Open lines label front)
    (plain : ∀ line ∈ inner, ¬ startMark <+: line) (on : ∀ line ∈ inner, ¬ endMark label <+: line) :
    Open (lines ++ inner) label (front ++ inner) := by
  induction inner generalizing lines front with
  | nil => simpa using h
  | cons line inner ih =>
    obtain ⟨first, plain⟩ := List.forall_mem_cons.mp plain
    obtain ⟨first_on, on⟩ := List.forall_mem_cons.mp on
    simpa using ih (h.within first first_on) plain on

theorem open_of_denotes {bytes : List UInt8} (opens : Opens label start)
    (denotes : Base64.Denotes inner.flatten bytes) : Open (start :: inner) label inner :=
  (Open.start opens).append
    (fun _ inside => not_isPrefix_of_denotes dash_mem_startMark denotes inside)
    (fun _ inside => not_isPrefix_of_denotes (dash_mem_endMark label) denotes inside)

theorem Open.read (h : Open lines label inner) (layout : Layout (lines ++ more) rest file) :
    Unbroken label ∧ ∃ tail, Layout more rest tail ∧
      read file = readLines (some label) inner.reverse (linesFrom [] tail) := by
  induction h generalizing more with
  | start opens =>
    obtain ⟨unbroken, seen, tail, visible, later, split⟩ := layout.seen
    refine ⟨opens.unbroken unbroken, tail, later, ?_⟩
    rw [Pem.read, split]
    exact readLines_start opens unbroken visible
  | again before opens ih =>
    rw [List.append_assoc] at layout
    obtain ⟨-, middle, further, same⟩ := ih layout
    obtain ⟨unbroken, seen, tail, visible, later, split⟩ := further.seen
    refine ⟨opens.unbroken unbroken, tail, later, ?_⟩
    rw [same, split]
    exact readLines_start opens unbroken visible
  | within before plain on ih =>
    rw [List.append_assoc] at layout
    obtain ⟨unbroken, middle, further, same⟩ := ih layout
    obtain ⟨-, seen, tail, visible, later, split⟩ := further.seen
    refine ⟨unbroken, tail, later, ?_⟩
    rw [same, split, List.reverse_append]
    exact readLines_within plain on unbroken visible

/-- Complete sections are read, and then what follows them. -/
theorem Complete.read (h : Complete lines sections) (layout : Layout (lines ++ more) rest file) :
    ∃ tail, Layout more rest tail ∧
      read file = (read tail).behind (sections.filterMap Block.item?) := by
  induction h generalizing file with
  | done => exact ⟨file, layout, rfl⟩
  | remark plain _ ih =>
    obtain ⟨-, seen, next, visible, further, split⟩ := layout.seen
    obtain ⟨tail, later, same⟩ := ih further
    refine ⟨tail, later, ?_⟩
    rw [← same, Pem.read, split]
    exact readLines_remark plain visible
  | @body label bytes start stop inner lines sections opens denotes ends _ ih =>
    have lines_eq : start :: (inner ++ stop :: lines) ++ more =
        (start :: inner) ++ (stop :: (lines ++ more)) := by simp
    rw [lines_eq] at layout
    obtain ⟨-, middle, ending, opened⟩ := (open_of_denotes opens denotes).read layout
    obtain ⟨-, seen, next, visible, further, split⟩ := ending.seen
    obtain ⟨tail, later, same⟩ := ih further
    refine ⟨tail, later, ?_⟩
    rw [← List.reverse_reverse inner] at denotes
    rw [opened, split, readLines_stop ends denotes visible, ← Pem.read, same]
    cases item : Block.item? ⟨label, bytes⟩ <;> simp [Contents.behind, item]

theorem Trouble.read (h : Trouble lines rest) (layout : Layout lines rest file) :
    ∃ fault, read file = ⟨[], some fault⟩ := by
  cases h with
  | unfinished h =>
    rw [← List.append_nil lines] at layout
    obtain ⟨-, tail, done, same⟩ := h.read layout
    cases done
    exact ⟨_, same⟩
  | badStart rest lead marked bad =>
    rcases lead with rfl | ⟨label, inner, h⟩
    · obtain ⟨unbroken, seen, tail, visible, -, split⟩ := layout.seen
      rw [Pem.read, split]
      exact readLines_badStart marked bad unbroken visible
    · obtain ⟨-, middle, further, same⟩ := h.read layout
      obtain ⟨unbroken, seen, tail, visible, -, split⟩ := further.seen
      rw [same, split]
      exact readLines_badStart marked bad unbroken visible
  | @badBase64 line lines inner rest h bad ends =>
    obtain ⟨-, middle, further, same⟩ := h.read layout
    obtain ⟨-, seen, tail, visible, -, split⟩ := further.seen
    rw [← List.reverse_reverse inner] at bad
    rw [same, split, readLines_badBase64 ends bad visible]
    exact ⟨_, rfl⟩

end TunnelServer.Pem
