import Mathlib.Data.List.TakeWhile
import TunnelServer.CommandLine.Arguments
import TunnelServer.Proofs.Address.Spelling

/-!
# Options in any order

Every option can be written in several ways: its value may stand behind it or be attached to it, and
some options have a letter besides the name. However distinct options are written, and in whatever
order, each of them is read with its own value.
-/

namespace TunnelServer.CommandLine

/-! ## Numbers -/

/-- A decimal numeral, perhaps with a sign. Only zero has a minus. -/
inductive Numbered : Nat → List Char → Prop where
  | plain {digits : List Char} {n : Nat} (numeral : Numeral.Spells 10 digits n) : Numbered n digits
  | plus {digits : List Char} {n : Nat} (numeral : Numeral.Spells 10 digits n) :
      Numbered n ('+' :: digits)
  | minus {digits : List Char} (numeral : Numeral.Spells 10 digits 0) : Numbered 0 ('-' :: digits)

theorem le_of_readFrom? {base value n : Nat} {digits : List Char} (positive : 0 < base)
    (h : Numeral.readFrom? base value digits = some n) : value ≤ n := by
  induction digits generalizing value with
  | nil => exact (Option.some.inj h).le
  | cons c rest ih =>
    rw [Numeral.readFrom?] at h
    cases digit : Numeral.digitValue? base c with
    | none => simp [digit] at h
    | some d =>
      rw [digit] at h
      have later := ih h
      have grown := Nat.le_mul_of_pos_right value positive
      omega

def signed (negative : Bool) (n : Nat) : Int := if negative then -n else n

theorem readDigits_eq {value n : Nat} {digits : List Char} (negative : Bool)
    (h : Numeral.readFrom? 10 value digits = some n) (small : n < 0x8000000000000000) :
    readDigits negative (signed negative value) digits = .ok (signed negative n) := by
  induction digits generalizing value with
  | nil =>
    obtain rfl := Option.some.inj h
    rfl
  | cons c rest ih =>
    rw [Numeral.readFrom?] at h
    cases digit : Numeral.digitValue? 10 c with
    | none => simp [digit] at h
    | some d =>
      rw [digit] at h
      have bound := le_of_readFrom? (by decide) h
      have next : (if negative then signed negative value * 10 - d
          else signed negative value * 10 + d) = signed negative (value * 10 + d) := by
        cases negative <;> simp only [signed] <;> push_cast <;> omega
      have above : ¬ signed negative (value * 10 + d) < -wordLimit := by
        cases negative <;> simp only [signed, wordLimit] <;> omega
      have below : ¬ wordLimit ≤ signed negative (value * 10 + d) := by
        cases negative <;> simp only [signed, wordLimit] <;> omega
      simp only [readDigits, digit, next, if_neg above, if_neg below]
      exact ih h

theorem readWhole_eq {n : Nat} {text : List Char} (h : Numbered n text)
    (small : n < 0x8000000000000000) : readWhole text = .ok (n : Int) := by
  have sign {c : Char} (digit : Numeral.isDigit 10 c) : c ≠ '+' ∧ c ≠ '-' := by
    constructor <;>
    · rintro rfl
      exact absurd digit (by decide)
  cases h with
  | plain numeral =>
    have read := readDigits_eq false numeral.readFrom?_eq small
    obtain ⟨c, rest, rfl⟩ := List.exists_cons_of_ne_nil numeral.ne_nil
    obtain ⟨plus, minus⟩ := sign (numeral.isDigit c List.mem_cons_self)
    unfold readWhole
    split <;> simp_all [signed]
  | plus numeral =>
    have read := readDigits_eq false numeral.readFrom?_eq small
    obtain ⟨c, rest, rfl⟩ := List.exists_cons_of_ne_nil numeral.ne_nil
    simpa [readWhole, signed] using read
  | minus numeral =>
    have read := readDigits_eq true numeral.readFrom?_eq small
    obtain ⟨c, rest, rfl⟩ := List.exists_cons_of_ne_nil numeral.ne_nil
    simpa [readWhole, signed] using read

theorem readUpTo_eq {n greatest : Nat} {text : String} (h : Numbered n text.toList)
    (fits : n ≤ greatest) (small : n < 0x8000000000000000) : readUpTo greatest text = .ok n := by
  have within : (0 : Int) ≤ n ∧ (n : Int) ≤ greatest := by omega
  rw [readUpTo, readWhole_eq h small]
  simp [bind, Except.bind, pure, Except.pure, within]

/-! ## Options and how they are written -/

/-- An option with its value. -/
inductive Choice where
  | config (path : String)
  | password (text : String)
  | serverPort (port : UInt16)
  | cert (path : String)
  | privateKey (path : String)
  | debug
  | sendBuffer (size : UInt32)
  | recvBuffer (size : UInt32)
  | logLevel (text : String)
deriving DecidableEq

namespace Choice

def switch : Choice → Switch
  | config _ => .config
  | password _ => .password
  | serverPort _ => .serverPort
  | cert _ => .cert
  | privateKey _ => .privateKey
  | debug => .debug
  | sendBuffer _ => .sendBuffer
  | recvBuffer _ => .recvBuffer
  | logLevel _ => .logLevel

/-- The text stands for the value of the option. No path is empty. -/
def Says : Choice → String → Prop
  | config path, text | cert path, text | privateKey path, text => text = path ∧ path ≠ ""
  | password value, text | logLevel value, text => text = value
  | serverPort port, text => Numbered port.toNat text.toList
  | sendBuffer size, text | recvBuffer size, text => Numbered size.toNat text.toList
  | debug, _ => False

def apply (arguments : Arguments) : Choice → Arguments
  | config path => { arguments with config := some path }
  | password text => { arguments with password := some text }
  | serverPort port => { arguments with serverPort := some port }
  | cert path => { arguments with cert := some path }
  | privateKey path => { arguments with privateKey := some path }
  | debug => { arguments with debug := true }
  | sendBuffer size => { arguments with sendBuffer := some size }
  | recvBuffer size => { arguments with recvBuffer := some size }
  | logLevel text => { arguments with logLevel := some text }

end Choice

/-- The text is not taken for a switch. -/
def IsPlain (text : String) : Prop := ∀ c rest, text.toList ≠ '-' :: c :: rest

/-- The arguments that an option can be written as. -/
inductive Written : Choice → List String → Prop where
  | flag : Written .debug ["--debug"]
  | apart {choice : Choice} {value : String} (means : choice.Says value) (plain : IsPlain value) :
      Written choice ["--" ++ choice.switch.longName, value]
  | joined {choice : Choice} {value : String} (means : choice.Says value) :
      Written choice ["--" ++ choice.switch.longName ++ "=" ++ value]
  | letterApart {choice : Choice} {value : String} {c : Char}
      (letter : choice.switch.letter? = some c) (means : choice.Says value)
      (plain : IsPlain value) : Written choice [String.ofList ['-', c], value]
  | letterJoined {choice : Choice} {value : String} {c : Char}
      (letter : choice.switch.letter? = some c) (means : choice.Says value) (filled : value ≠ "")
      (other : value.toList.head? ≠ some '=') :
      Written choice [String.ofList ('-' :: c :: value.toList)]
  | letterEquals {choice : Choice} {value : String} {c : Char}
      (letter : choice.switch.letter? = some c) (means : choice.Says value) :
      Written choice [String.ofList ('-' :: c :: '=' :: value.toList)]

variable {choice : Choice} {choices : List Choice} {arguments : Arguments} {seen : List Switch}
  {progress : Progress} {value : String} {switch : Switch} {words : List String}
  {written : List (List String)}

theorem Choice.Says.takesValue (h : choice.Says value) : choice.switch.takesValue = true := by
  cases choice with
  | debug => exact h.elim
  | _ => rfl

theorem readPath_eq {path : String} (filled : path ≠ "") (switch : Switch) :
    readPath switch path = .ok path := by
  rw [readPath, if_neg]
  rwa [String.isEmpty_iff]

theorem readNumber_eq {n greatest : Nat} (h : Numbered n value.toList) (switch : Switch)
    (fits : n ≤ greatest) (small : n < 0x8000000000000000) :
    readNumber switch greatest value = .ok n := by
  rw [readNumber, readUpTo_eq h fits small]
  rfl

theorem Choice.Says.assign (h : choice.Says value) (arguments : Arguments) :
    arguments.assign choice.switch value = .ok (choice.apply arguments) := by
  cases choice with
  | config path | cert path | privateKey path =>
    obtain ⟨rfl, filled⟩ := h
    simp only [switch, Arguments.assign, readPath_eq filled]
    rfl
  | password text | logLevel text =>
    obtain rfl := h
    rfl
  | serverPort port =>
    have fits : port.toNat ≤ 65535 := Nat.le_of_lt_succ port.toNat_lt
    simp only [switch, Arguments.assign, readNumber_eq h _ fits (by omega)]
    simp [Choice.apply, bind, Except.bind, pure, Except.pure]
  | sendBuffer size | recvBuffer size =>
    have fits : size.toNat ≤ 4294967295 := Nat.le_of_lt_succ size.toNat_lt
    simp only [switch, Arguments.assign, readNumber_eq h _ fits (by omega)]
    simp [Choice.apply, bind, Except.bind, pure, Except.pure]
  | debug => exact h.elim

/-! ## Reading -/

/-- Reading has come so far: to these arguments and switches once a value that is pending is taken
in. -/
inductive Reached : Progress → Arguments → List Switch → Prop where
  | settled {arguments : Arguments} {seen : List Switch} :
      Reached ⟨arguments, seen, none, false⟩ arguments seen
  | waiting {choice : Choice} {value : String} {arguments : Arguments} {seen : List Switch}
      (means : choice.Says value) (fresh : choice.switch ∉ seen) :
      Reached ⟨arguments, seen, some ⟨choice.switch, some value⟩, false⟩ (choice.apply arguments)
        (choice.switch :: seen)

theorem take_eq (means : choice.Says value) (fresh : choice.switch ∉ seen) :
    (Progress.mk arguments seen none false).take choice.switch value =
      .ok ⟨choice.apply arguments, choice.switch :: seen, none, false⟩ := by
  simp [Progress.take, fresh, means.assign]

theorem Reached.settle (h : Reached progress arguments seen) :
    progress.settle = .ok ⟨arguments, seen, none, false⟩ := by
  cases h with
  | settled => rfl
  | waiting means fresh => exact take_eq means fresh

theorem Reached.not_ended (h : Reached progress arguments seen) : progress.ended = false := by
  cases h <;> rfl

theorem ofLongName?_longName (switch : Switch) :
    Switch.ofLongName? switch.longName.toList = some switch := by
  cases switch <;> decide

theorem ofLetter?_of_letter {c : Char} (h : switch.letter? = some c) :
    Switch.ofLetter? c = some switch := by
  cases switch <;> cases h <;> decide

theorem letter_ne_dash {c : Char} (h : switch.letter? = some c) : c ≠ '-' := by
  cases switch <;> cases h <;> decide

theorem longName_plain (switch : Switch) :
    ∀ c ∈ switch.longName.toList, decide (c ≠ '=') = true := by
  rw [← List.all_eq_true]
  cases switch <;> decide

theorem meetLong_name (progress : Progress) (switch : Switch) :
    progress.meetLong switch.longName.toList =
      if switch.takesValue then progress.meetOption switch none else progress.meetFlag switch := by
  have front := List.takeWhile_eq_self_iff.mpr (longName_plain switch)
  have back := List.dropWhile_eq_nil_iff.mpr (longName_plain switch)
  rw [Progress.meetLong, front, back, ofLongName?_longName]

theorem meetLong_joined (progress : Progress) (takes : switch.takesValue = true)
    (value : List Char) : progress.meetLong (switch.longName.toList ++ '=' :: value) =
      progress.meetOption switch (some (String.ofList value)) := by
  have front : (switch.longName.toList ++ '=' :: value).takeWhile (· ≠ '=') =
      switch.longName.toList := by
    rw [List.takeWhile_append_of_pos (longName_plain switch)]
    simp
  have back : (switch.longName.toList ++ '=' :: value).dropWhile (· ≠ '=') = '=' :: value := by
    rw [List.dropWhile_append_of_pos (longName_plain switch)]
    simp
  rw [Progress.meetLong, front, back, ofLongName?_longName]
  simp [takes]

theorem meetLetters_eq (progress : Progress) {c : Char} (letter : switch.letter? = some c)
    (takes : switch.takesValue = true) (rest : List Char) :
    progress.meetLetters (c :: rest) =
      progress.meetOption switch (Progress.attachedValue? rest) := by
  rw [Progress.meetLetters, ofLetter?_of_letter letter]
  simp [takes]

theorem meet_long (reading : progress.ended = false) {argument : String} {text : List Char}
    (written : argument.toList = '-' :: '-' :: text) (filled : text ≠ []) :
    progress.meet argument = progress.meetLong text := by
  obtain ⟨c, rest, rfl⟩ := List.exists_cons_of_ne_nil filled
  simp [Progress.meet, reading, written]

theorem meet_letters (reading : progress.ended = false) {argument : String} {c : Char}
    {rest : List Char} (written : argument.toList = '-' :: c :: rest) (letter : c ≠ '-') :
    progress.meet argument = progress.meetLetters (c :: rest) := by
  simp [Progress.meet, reading, written, letter]

theorem meet_plain (reading : progress.ended = false) (plain : IsPlain value) :
    progress.meet value = progress.meetPlain value := by
  rw [Progress.meet, reading]
  simp only [Bool.false_eq_true, if_false]
  split
  · rename_i text
    exact absurd text (plain _ _)
  · rename_i text
    exact absurd text (plain _ _)
  · rename_i text
    exact absurd text (plain _ _)
  · rfl

theorem Reached.meetOption_some (h : Reached progress arguments seen) (means : choice.Says value)
    (fresh : choice.switch ∉ seen) : progress.meetOption choice.switch (some value) =
      .ok ⟨choice.apply arguments, choice.switch :: seen, none, false⟩ := by
  rw [Progress.meetOption, h.settle]
  exact take_eq means fresh

theorem Reached.meetOption_none (h : Reached progress arguments seen) (plain : IsPlain value)
    (switch : Switch) : (progress.meetOption switch none >>= fun next => next.meet value) =
      .ok ⟨arguments, seen, some ⟨switch, some value⟩, false⟩ := by
  have reading : (Progress.mk arguments seen (some ⟨switch, none⟩) false).ended = false := rfl
  rw [Progress.meetOption, h.settle]
  exact meet_plain reading plain

theorem Reached.meetFlag_debug (h : Reached progress arguments seen) (fresh : .debug ∉ seen) :
    progress.meetFlag .debug =
      .ok ⟨Choice.debug.apply arguments, .debug :: seen, none, false⟩ := by
  rw [Progress.meetFlag, h.settle]
  simp [Progress.take, fresh, Arguments.assign, Choice.apply, bind, Except.bind]

/-- An option is taken in, or its value is pending. -/
theorem Reached.step (h : Reached progress arguments seen) (written : Written choice words)
    (fresh : choice.switch ∉ seen) : ∃ next, words.foldlM Progress.meet progress = .ok next ∧
      Reached next (choice.apply arguments) (choice.switch :: seen) := by
  have reading := h.not_ended
  have name_ne (switch : Switch) : switch.longName.toList ≠ [] := by cases switch <;> decide
  cases written with
  | flag =>
    refine ⟨_, ?_, .settled⟩
    have text : "--debug".toList = '-' :: '-' :: Switch.debug.longName.toList := by decide
    simp only [List.foldlM_cons, List.foldlM_nil, bind_pure]
    rw [meet_long reading text (name_ne _), meetLong_name]
    exact h.meetFlag_debug fresh
  | @apart _ value means plain =>
    refine ⟨_, ?_, .waiting means fresh⟩
    have text : ("--" ++ choice.switch.longName).toList =
        '-' :: '-' :: choice.switch.longName.toList := by simp
    simp only [List.foldlM_cons, List.foldlM_nil, bind_pure]
    rw [meet_long reading text (name_ne _), meetLong_name, if_pos means.takesValue]
    exact h.meetOption_none plain choice.switch
  | @joined _ value means =>
    refine ⟨_, ?_, .settled⟩
    have text : ("--" ++ choice.switch.longName ++ "=" ++ value).toList =
        '-' :: '-' :: (choice.switch.longName.toList ++ '=' :: value.toList) := by simp
    simp only [List.foldlM_cons, List.foldlM_nil, bind_pure]
    rw [meet_long reading text (by simp), meetLong_joined progress means.takesValue,
      String.ofList_toList]
    exact h.meetOption_some means fresh
  | @letterApart _ value c letter means plain =>
    refine ⟨_, ?_, .waiting means fresh⟩
    simp only [List.foldlM_cons, List.foldlM_nil, bind_pure]
    rw [meet_letters reading (String.toList_ofList ..) (letter_ne_dash letter),
      meetLetters_eq progress letter means.takesValue]
    exact h.meetOption_none plain choice.switch
  | @letterJoined _ value c letter means filled other =>
    refine ⟨_, ?_, .settled⟩
    have attached : Progress.attachedValue? value.toList = some value := by
      unfold Progress.attachedValue?
      split
      · rename_i empty
        exact absurd (String.toList_eq_nil_iff.mp empty) filled
      · rename_i equals
        exact absurd (by rw [equals]; rfl) other
      · rw [String.ofList_toList]
    simp only [List.foldlM_cons, List.foldlM_nil, bind_pure]
    rw [meet_letters reading (String.toList_ofList ..) (letter_ne_dash letter),
      meetLetters_eq progress letter means.takesValue, attached]
    exact h.meetOption_some means fresh
  | @letterEquals _ value c letter means =>
    refine ⟨_, ?_, .settled⟩
    simp only [List.foldlM_cons, List.foldlM_nil, bind_pure]
    rw [meet_letters reading (String.toList_ofList ..) (letter_ne_dash letter),
      meetLetters_eq progress letter means.takesValue, Progress.attachedValue?,
      String.ofList_toList]
    exact h.meetOption_some means fresh

theorem Reached.run (h : Reached progress arguments seen)
    (each : List.Forall₂ Written choices written) (distinct : (choices.map Choice.switch).Nodup)
    (fresh : ∀ choice ∈ choices, choice.switch ∉ seen) :
    ∃ next seen', written.flatten.foldlM Progress.meet progress = .ok next ∧
      Reached next (choices.foldl Choice.apply arguments) seen' := by
  induction each generalizing progress arguments seen with
  | nil => exact ⟨progress, seen, rfl, h⟩
  | @cons choice words choices written here _ ih =>
    obtain ⟨new, distinct⟩ := List.nodup_cons.mp distinct
    obtain ⟨first, later⟩ := List.forall_mem_cons.mp fresh
    obtain ⟨middle, read, reached⟩ := h.step here first
    have unseen : ∀ other ∈ choices, other.switch ∉ choice.switch :: seen := by
      intro other inside again
      rcases List.mem_cons.mp again with same | before
      · exact new (List.mem_map.mpr ⟨other, inside, same⟩)
      · exact later other inside before
    obtain ⟨next, seen', rest, final⟩ := ih reached distinct unseen
    refine ⟨next, seen', ?_, final⟩
    rw [List.flatten_cons, List.foldlM_append, read]
    exact rest

/-- Distinct options, in any order and written in any way, are the arguments that are read. -/
theorem read_of_written (each : List.Forall₂ Written choices written)
    (distinct : (choices.map Choice.switch).Nodup) : Arguments.read written.flatten =
      .ok (choices.foldl Choice.apply .blank) := by
  obtain ⟨last, seen, read, reached⟩ :=
    Reached.settled.run each distinct fun _ _ => List.not_mem_nil
  rw [Arguments.read, Progress.start, read]
  simp only [bind, Except.bind, reached.settle]
  rfl

end TunnelServer.CommandLine
