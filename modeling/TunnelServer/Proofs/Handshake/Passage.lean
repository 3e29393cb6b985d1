import TunnelServer.Proofs.Handshake.Waiting

/-!
# The passage of fields

A row of fields passes one field after another. Each has a limit that is counted from the end of the
one before, and the first that does not come in time ends the passage. What was heard by then, and
when the passage ends, depend only on when the bytes come.
-/

namespace TunnelServer

open Source (Brings Handed readyAt)

/-- A field, the step that waits for it, and for how long it does. -/
structure Awaited where
  step : Step
  limit : Option Nat
  bytes : List UInt8

/-- What is said in a row of fields. -/
def Awaited.join (fields : List Awaited) : List UInt8 := fields.flatMap Awaited.bytes

@[simp] theorem Awaited.join_nil : Awaited.join [] = [] := rfl

@[simp] theorem Awaited.join_cons (field : Awaited) (fields : List Awaited) :
    Awaited.join (field :: fields) = field.bytes ++ Awaited.join fields := List.flatMap_cons

@[simp] theorem Awaited.join_append (fields more : List Awaited) :
    Awaited.join (fields ++ more) = Awaited.join fields ++ Awaited.join more := List.flatMap_append

/-- How long these fields may take, if all of them have limits. -/
def Awaited.longest (fields : List Awaited) : Nat :=
  fields.foldr (fun field rest => field.limit.getD 0 + rest) 0

theorem Awaited.begun {fields : List Awaited} {bytes rest later : List UInt8}
    (h : bytes <+: Awaited.join fields ++ rest) (field : Awaited)
    (h' : rest <+: field.bytes ++ later) :
    bytes <+: Awaited.join (fields ++ [field]) ++ later := by
  apply h.trans
  rw [Awaited.join_append, List.append_assoc, List.prefix_append_right_inj, Awaited.join_cons,
    Awaited.join_nil, List.append_nil]
  exact h'

/-- How a row of fields passes that is begun at a time, when so many bytes were heard: why it ends
before the last field, if it does, when it ends, and how many bytes were heard by then. A script
brings the bytes and then goes on with `tail`. -/
inductive Passage (tail : List Event) (bytes : List UInt8) (script : List Event) :
    Nat → Nat → List Awaited → Option HandshakeHalt → Nat → Nat → Prop where
  | done {now count : Nat} : Passage tail bytes script now count [] none now count
  /-- The last byte of the field comes within the limit. -/
  | inTime {now count time heard : Nat} {field : Awaited} {fields : List Awaited}
      {failure : Option HandshakeHalt} (enough : count + field.bytes.length ≤ bytes.length)
      (soon : ∀ most ∈ field.limit, readyAt 0 (count + field.bytes.length) script ≤ now + most)
      (onwards : Passage tail bytes script
        (max now (readyAt 0 (count + field.bytes.length) script)) (count + field.bytes.length)
        fields failure time heard) :
      Passage tail bytes script now count (field :: fields) failure time heard
  /-- At the limit a byte of the field is missing, and the stream goes on. -/
  | late {now count most heard : Nat} {field : Awaited} {fields : List Awaited}
      (limited : field.limit = some most) (part : heard < count + field.bytes.length)
      (brought : heard ≤ bytes.length) (came : readyAt 0 heard script ≤ now + most)
      (missing : (heard = bytes.length ∧ tail = []) ∨ now + most < readyAt 0 (heard + 1) script) :
      Passage tail bytes script now count (field :: fields)
        (some (.failed (.timeout field.step))) (now + most) heard
  /-- Within the limit the stream ends or fails, and a byte of the field is missing. -/
  | interrupted {now count due : Nat} {arrival : Arrival} {later : List Event} {cause : IoError}
      {field : Awaited} {fields : List Awaited} (stops : tail = ⟨due, arrival⟩ :: later)
      (reports : arrival.Reports cause) (short : bytes.length < count + field.bytes.length)
      (soon : ∀ most ∈ field.limit, readyAt 0 (bytes.length + 1) script ≤ now + most) :
      Passage tail bytes script now count (field :: fields)
        (some (.failed (.protocol field.step (.io cause))))
        (max now (readyAt 0 (bytes.length + 1) script)) bytes.length
  /-- There is no limit, and a byte of the field never comes. -/
  | parked {now count time : Nat} {field : Awaited} {fields : List Awaited}
      (unlimited : field.limit = none) (silent : tail = [])
      (short : bytes.length < count + field.bytes.length) :
      Passage tail bytes script now count (field :: fields) (some .parked) time bytes.length

namespace Passage

variable {tail script : List Event} {bytes : List UInt8} {now count time time' heard heard' : Nat}
  {fields more : List Awaited} {failure : Option HandshakeHalt} {halt : HandshakeHalt}

theorem trans (h : Passage tail bytes script now count fields none time heard)
    (h' : Passage tail bytes script time heard more failure time' heard') :
    Passage tail bytes script now count (fields ++ more) failure time' heard' := by
  generalize ho : (none : Option HandshakeHalt) = open' at h
  induction h with
  | done => exact h'
  | inTime enough soon onwards ih => exact .inTime enough soon (ih h' ho)
  | late | interrupted | parked => cases ho

theorem stop (h : Passage tail bytes script now count fields (some halt) time heard)
    (more : List Awaited) :
    Passage tail bytes script now count (fields ++ more) (some halt) time heard := by
  generalize ho : some halt = failed at h
  induction h with
  | done => cases ho
  | inTime enough soon onwards ih => exact .inTime enough soon (ih ho)
  | late limited part brought came missing => exact .late limited part brought came missing
  | interrupted stops reports short soon => exact .interrupted stops reports short soon
  | parked unlimited silent short => exact .parked unlimited silent short

theorem heard_eq (h : Passage tail bytes script now count fields none time heard) :
    heard = count + (Awaited.join fields).length := by
  generalize ho : (none : Option HandshakeHalt) = open' at h
  induction h with
  | done => simp
  | inTime enough soon onwards ih =>
    have later := ih ho
    rw [Awaited.join_cons, List.length_append]
    omega
  | late | interrupted | parked => cases ho

theorem time_le (h : Passage tail bytes script now count fields none time heard)
    (limited : ∀ field ∈ fields, field.limit.isSome) :
    time ≤ now + Awaited.longest fields := by
  generalize ho : (none : Option HandshakeHalt) = open' at h
  induction h with
  | done => exact Nat.le_add_right ..
  | @inTime now count _ _ field fields _ enough soon onwards ih =>
    obtain ⟨most, here⟩ := Option.isSome_iff_exists.mp (limited field (by simp))
    have later := ih (fun other ho => limited other (by simp [ho])) ho
    have there := soon most here
    rw [Awaited.longest, List.foldr_cons, here, Option.getD_some]
    rw [Awaited.longest] at later
    omega
  | late | interrupted | parked => cases ho

theorem lt_of_missing {most size : Nat}
    (missing : (heard = bytes.length ∧ tail = []) ∨ now + most < readyAt 0 (heard + 1) script)
    (part : heard < size) (enough : size ≤ bytes.length) :
    now + most < readyAt 0 (heard + 1) script ∧ now + most < readyAt 0 size script := by
  have never : now + most < readyAt 0 (heard + 1) script := by
    apply missing.resolve_left
    rintro ⟨all, -⟩
    omega
  exact ⟨never, Nat.lt_of_lt_of_le never (Source.readyAt_mono part)⟩

/-- Where the same fields have to come and each byte comes at the same time, the same happens. -/
theorem unique {tail' script' : List Event} {bytes' : List UInt8} {fields' : List Awaited}
    {failure' : Option HandshakeHalt}
    (h : Passage tail bytes script now count fields failure time heard)
    (h' : Passage tail' bytes' script' now count fields' failure' time' heard')
    (alike : fields'.map (fun field => (field.step, field.limit, field.bytes.length)) =
      fields.map fun field => (field.step, field.limit, field.bytes.length))
    (enough : count + (Awaited.join fields).length ≤ bytes.length)
    (enough' : count + (Awaited.join fields').length ≤ bytes'.length)
    (same : ∀ place ≤ count + (Awaited.join fields).length,
      readyAt 0 place script' = readyAt 0 place script) :
    failure' = failure ∧ time' = time ∧ heard' = heard := by
  induction h generalizing fields' with
  | done =>
    obtain rfl : fields' = [] := by simpa using alike
    cases h'
    exact ⟨rfl, rfl, rfl⟩
  | @inTime now count time heard field fields failure whole soon onwards ih =>
    obtain ⟨field', fields', rfl⟩ := List.exists_cons_of_ne_nil
      (fun none : fields' = [] => by simp [none] at alike)
    simp only [List.map_cons, List.cons.injEq, Prod.mk.injEq] at alike
    obtain ⟨⟨steps, limits, lengths⟩, others⟩ := alike
    rw [Awaited.join_cons, List.length_append] at enough enough' same
    have here := same (count + field.bytes.length) (by omega)
    cases h' with
    | inTime whole' soon' onwards' =>
      rw [lengths, here] at onwards'
      apply ih onwards' others
      · omega
      · omega
      · intro place hp
        exact same place (by omega)
    | late limited part brought came missing =>
      have never := (lt_of_missing missing part (by omega)).2
      have there := soon _ (limits ▸ limited)
      rw [lengths, here] at never
      omega
    | interrupted _ _ short => omega
    | parked _ _ short => omega
  | @late now count most heard field fields limited part brought came missing =>
    obtain ⟨field', fields', rfl⟩ := List.exists_cons_of_ne_nil
      (fun none : fields' = [] => by simp [none] at alike)
    simp only [List.map_cons, List.cons.injEq, Prod.mk.injEq] at alike
    obtain ⟨⟨steps, limits, lengths⟩, others⟩ := alike
    rw [Awaited.join_cons, List.length_append] at enough enough' same
    have never := lt_of_missing missing part (by omega)
    cases h' with
    | inTime whole' soon' onwards' =>
      have there := soon' _ (limits.trans limited)
      rw [lengths, same _ (by omega)] at there
      omega
    | @late _ _ most' heard' _ _ limited' part' brought' came' missing' =>
      obtain rfl : most' = most := Option.some.inj (limited'.symm.trans (limits.trans limited))
      have never' := lt_of_missing missing' part' (by omega)
      rw [lengths] at part'
      have next := same (heard' + 1) (by omega)
      have here := same heard' (by omega)
      -- if one had heard less, the next byte would have come to the other one in time
      have no_less : ¬ heard' < heard := by
        intro less
        have sooner : readyAt 0 (heard' + 1) script ≤ readyAt 0 heard script :=
          Source.readyAt_mono less
        omega
      have no_more : ¬ heard < heard' := by
        intro more
        have sooner : readyAt 0 (heard + 1) script ≤ readyAt 0 heard' script :=
          Source.readyAt_mono more
        omega
      exact ⟨by rw [steps], rfl, by omega⟩
    | interrupted _ _ short => omega
    | parked _ _ short => omega
  | interrupted stops reports short soon =>
    rw [Awaited.join_cons, List.length_append] at enough
    omega
  | parked unlimited silent short =>
    rw [Awaited.join_cons, List.length_append] at enough
    omega

end Passage

theorem Source.Handed.readyAt_eq_max {tail : List Event} {used rest : List UInt8} {now : Nat}
    {before after : Source} (h : Handed tail used rest now before after) (count : Nat) :
    readyAt now count after.script = max now (readyAt 0 (used.length + count) before.script) := by
  rw [h.resumes now count (Nat.le_refl now), ← Source.readyAt_max, Nat.max_eq_left (Nat.zero_le _)]

namespace Handshake

variable {α β : Type} {fields more : List Awaited} {value : Except HandshakeHalt α}
  {tail : List Event} {heard rest used : List UInt8} {before : Source} {talk : Conversation}

/-- How a part of a handshake ends that waits for these fields, from a script of which the first
bytes have been heard. -/
structure Passes (tail : List Event) (heard rest : List UInt8) (before : Source) (now : Nat)
    (fields : List Awaited) (value : Except HandshakeHalt α) (failure : Option HandshakeHalt)
    (ended : Except HandshakeHalt α × Conversation) : Prop where
  result : ended.1 = failure.elim value .error
  passage : ∃ count, Passage tail (heard ++ rest) before.script now heard.length fields failure
    ended.2.now count ∧ ended.2.source.taken = before.taken ++ (heard ++ rest).take count
  handed : failure = none → ∃ left, rest = Awaited.join fields ++ left ∧
    Handed tail (heard ++ Awaited.join fields) left ended.2.now before ended.2.source

/-- A part waits for these fields, one after another, as far as what comes is their beginning. -/
def Awaits (part : Dialogue α) (fields : List Awaited) (value : Except HandshakeHalt α) : Prop :=
  ∀ (tail : List Event) (heard rest more : List UInt8) (before : Source) (talk : Conversation),
    Handed tail heard rest talk.now before talk.source →
    rest <+: Awaited.join fields ++ more →
    ∃ failure, Passes tail heard rest before talk.now fields value failure (part talk)

theorem Passes.bind {first : Dialogue α} {next : α → Dialogue β} {value : α}
    {result : Except HandshakeHalt β} {failure : Option HandshakeHalt}
    (passed : Passes tail heard rest before talk.now fields (.ok value) failure (first talk))
    (onwards : failure = none → ∀ left, rest = Awaited.join fields ++ left →
      Handed tail (heard ++ Awaited.join fields) left (first talk).2.now before
        (first talk).2.source →
      ∃ failure', Passes tail (heard ++ Awaited.join fields) left before (first talk).2.now more
        result failure' (next value (first talk).2)) :
    ∃ failure, Passes tail heard rest before talk.now (fields ++ more) result failure
      ((first >>= next) talk) := by
  obtain ⟨count, passage, taken⟩ := passed.passage
  cases failure with
  | some halt =>
    have stop : (first >>= next) talk = (.error halt, (first talk).2) :=
      bind_of_error (Prod.ext passed.result rfl)
    refine ⟨some halt, ?_⟩
    rw [stop]
    exact ⟨rfl, ⟨count, passage.stop more, taken⟩, fun no => by cases no⟩
  | none =>
    obtain ⟨left, rfl, handed'⟩ := passed.handed rfl
    obtain ⟨failure, passed'⟩ := onwards rfl left rfl handed'
    have later : (first >>= next) talk = next value (first talk).2 :=
      bind_of_ok (Prod.ext passed.result rfl)
    obtain ⟨count', passage', taken'⟩ := passed'.passage
    rw [List.append_assoc] at passage' taken'
    rw [passage.heard_eq, ← List.length_append] at passage
    refine ⟨failure, ?_⟩
    rw [later]
    refine ⟨passed'.result, ⟨count', passage.trans passage', taken'⟩, ?_⟩
    intro complete
    obtain ⟨last, rfl, handed''⟩ := passed'.handed complete
    refine ⟨last, ?_, ?_⟩
    · rw [Awaited.join_append, List.append_assoc]
    · rw [Awaited.join_append, ← List.append_assoc]
      exact handed''

theorem Awaits.bind {first : Dialogue α} {next : α → Dialogue β} {value : α}
    {result : Except HandshakeHalt β} (hf : Awaits first fields (.ok value))
    (hn : Awaits (next value) more result) :
    Awaits (first >>= next) (fields ++ more) result := by
  intro tail heard rest others before talk handed agree
  rw [Awaited.join_append, List.append_assoc] at agree
  obtain ⟨failure, passed⟩ := hf tail heard rest _ before talk handed agree
  apply passed.bind
  rintro - left rfl handed'
  rw [List.prefix_append_right_inj] at agree
  exact hn tail _ left others before (first talk).2 handed' agree

theorem Awaits.bind_error {first : Dialogue α} {halt : HandshakeHalt}
    (hf : Awaits first fields (.error halt)) (next : α → Dialogue β) :
    Awaits (first >>= next) fields (.error halt) := by
  intro tail heard rest others before talk handed agree
  obtain ⟨failure, passed⟩ := hf tail heard rest others before talk handed agree
  have result : (first talk).1 = .error (failure.getD halt) := by
    rw [passed.result]
    cases failure <;> rfl
  have stop : (first >>= next) talk = (.error (failure.getD halt), (first talk).2) :=
    bind_of_error (Prod.ext result rfl)
  refine ⟨failure, ?_⟩
  rw [stop]
  refine ⟨?_, passed.passage, passed.handed⟩
  cases failure <;> rfl

theorem Passes.nothing (handed : Handed tail heard rest talk.now before talk.source)
    {ended : Except HandshakeHalt α × Conversation} (result : ended.1 = value)
    (clock : ended.2.now = talk.now) (source : ended.2.source = talk.source) :
    Passes tail heard rest before talk.now [] value none ended where
  result := result
  passage := by
    rw [clock, source]
    refine ⟨heard.length, .done, ?_⟩
    rw [List.take_left]
    exact handed.taken
  handed := by
    intro _
    refine ⟨rest, rfl, ?_⟩
    rw [clock, source, Awaited.join_nil, List.append_nil]
    exact handed

theorem Awaits.pure (value : α) : Awaits (Pure.pure value : Dialogue α) [] (.ok value) :=
  fun _ _ _ _ _ _ handed _ => ⟨none, .nothing handed rfl rfl rfl⟩

theorem Awaits.throw (halt : HandshakeHalt) :
    Awaits (MonadExcept.throw halt : Dialogue α) [] (.error halt) :=
  fun _ _ _ _ _ _ handed _ => ⟨none, .nothing handed rfl rfl rfl⟩

theorem note_awaits (level : Level) (message : String) : Awaits (note level message) [] (.ok ()) :=
  fun _ _ _ _ _ _ handed _ => ⟨none, .nothing handed rfl rfl rfl⟩

theorem Awaits.judge {first : Dialogue α} {next : α → Dialogue β} {value : α}
    {result : Except HandshakeHalt β} (hf : Awaits first fields (.ok value))
    (hn : Awaits (next value) [] result) : Awaits (first >>= next) fields result := by
  have whole : Awaits (first >>= next) (fields ++ []) result := hf.bind hn
  rwa [List.append_nil] at whole

section Stage

variable {step : Step} {limit : Option Nat} {field : Option Nat → FieldReader α}
  {outcome : Except FieldHalt α} {got : Source.Gathered}

theorem timed_of_gather (step : Step)
    (hw : ∀ deadline, Wire.Waits deadline (field deadline) used outcome)
    (hg : Source.gather (limit.map (talk.now + ·)) used.length talk.now talk.source.script = got)
    (hp : got.bytes <+: used) :
    ∃ result source, timed step limit field talk =
        (result.mapError (FieldHalt.during step), { talk with now := got.time, source }) ∧
      source.script = got.rest ∧ source.taken = talk.source.taken ++ got.bytes ∧
      ((got.outcome = .complete ∧ result = outcome) ∨
        ∃ halt, Wire.Halts got.outcome halt ∧ result = .error halt) := by
  subst hg
  obtain ⟨result, source, hr, hs, ht, ended⟩ := hw _ ⟨talk.now, talk.source⟩ hp
  refine ⟨result, source, ?_, hs, ht, ended⟩
  simp only [timed, hr]

theorem passes_of_gather (hw : ∀ deadline, Wire.Waits deadline (field deadline) used outcome)
    (handed : Handed tail heard rest talk.now before talk.source)
    (agree : ∃ more, rest <+: used ++ more)
    {halts : Source.Outcome} {time count : Nat} {left : List Event}
    (hg : Source.gather (limit.map (talk.now + ·)) used.length talk.now talk.source.script =
      ⟨halts, time, rest.take count, left⟩)
    (incomplete : halts ≠ .complete)
    (passage : ∀ halt, Wire.Halts halts halt → Passage tail (heard ++ rest) before.script talk.now
      heard.length [⟨step, limit, used⟩] (some (halt.during step)) time (heard.length + count)) :
    ∃ failure, Passes tail heard rest before talk.now [⟨step, limit, used⟩]
      (outcome.mapError (FieldHalt.during step)) failure (timed step limit field talk) := by
  have short : (rest.take count).length ≤ used.length := by
    have least := Source.length_gather_le (limit.map (talk.now + ·)) used.length talk.now
      talk.source.script
    rwa [hg] at least
  obtain ⟨more, agree⟩ := agree
  have front : rest.take count <+: used := List.prefix_of_prefix_length_le
    ((List.take_prefix count rest).trans agree) (List.prefix_append used more) short
  obtain ⟨_, source, hr, -, ht, ⟨complete, -⟩ | ⟨halt, stopped, rfl⟩⟩ :=
    timed_of_gather step hw hg front
  · exact absurd complete incomplete
  · refine ⟨some (halt.during step), ?_⟩
    rw [hr]
    refine ⟨rfl, ⟨_, passage halt stopped, ?_⟩, fun no => by cases no⟩
    rw [List.take_length_add_append, ← List.append_assoc, ← handed.taken]
    exact ht

theorem passes_of_arrival (hw : ∀ deadline, Wire.Waits deadline (field deadline) used outcome)
    {left : List UInt8} (handed : Handed tail heard (used ++ left) talk.now before talk.source)
    (soon : ∀ most ∈ limit,
      readyAt 0 (heard.length + used.length) before.script ≤ talk.now + most) :
    Passes tail heard (used ++ left) before talk.now [⟨step, limit, used⟩]
      (outcome.mapError (FieldHalt.during step)) none (timed step limit field talk) := by
  have ready := handed.readyAt_eq_max used.length
  have enough : used.length ≤ (used ++ left).length := by simp
  have early : ∀ moment ∈ limit.map (talk.now + ·),
      readyAt talk.now used.length talk.source.script ≤ moment := by
    intro moment hm
    obtain ⟨most, limited, rfl⟩ := Option.map_eq_some_iff.mp hm
    have there := soon most limited
    rw [ready]
    omega
  obtain ⟨after, hg, brings, resumes⟩ := handed.brings.gather enough early
  rw [List.take_left] at hg
  rw [List.drop_left] at brings
  obtain ⟨_, source, hr, hs, ht, ⟨-, rfl⟩ | ⟨_, stopped, -⟩⟩ :=
    timed_of_gather step hw hg List.prefix_rfl
  · replace hs : source.script = after := hs
    rw [← hs] at brings resumes
    have handed' : Handed tail (heard ++ used) left
        (readyAt talk.now used.length talk.source.script) before source :=
      handed.trans ⟨ht, brings, resumes⟩ (Source.le_readyAt ..)
    have size : heard.length + used.length ≤ (heard ++ (used ++ left)).length := by
      simp only [List.length_append]
      omega
    have word : Awaited.join [⟨step, limit, used⟩] = used := by simp
    rw [hr]
    refine ⟨rfl, ⟨heard.length + used.length, ?_, ?_⟩, fun _ => ⟨left, ?_, ?_⟩⟩
    · rw [ready]
      exact .inTime size soon .done
    · rw [handed'.taken, ← List.length_append, ← List.append_assoc heard, List.take_left]
    · rw [word]
    · rw [word]
      exact handed'
  · exact absurd rfl stopped.incomplete

/-- A field that has not come by its limit, while the stream goes on, is given up there. -/
theorem passes_of_late (hw : ∀ deadline, Wire.Waits deadline (field deadline) used outcome)
    (handed : Handed tail heard rest talk.now before talk.source)
    (agree : ∃ more, rest <+: used ++ more) {most : Nat} (limited : limit = some most)
    (late : used.length ≤ rest.length →
      talk.now + most < readyAt 0 (heard.length + used.length) before.script)
    (whole : tail ≠ [] →
      talk.now + most < readyAt 0 (heard.length + (rest.length + 1)) before.script) :
    ∃ failure, Passes tail heard rest before talk.now [⟨step, limit, used⟩]
      (outcome.mapError (FieldHalt.during step)) failure (timed step limit field talk) := by
  have ready := handed.readyAt_eq_max
  have late' : used.length ≤ rest.length →
      talk.now + most < readyAt talk.now used.length talk.source.script := by
    intro enough
    rw [ready]
    exact Nat.lt_of_lt_of_le (late enough) (Nat.le_max_right ..)
  have whole' : tail ≠ [] →
      talk.now + most < readyAt talk.now (rest.length + 1) talk.source.script := by
    intro more
    rw [ready]
    exact Nat.lt_of_lt_of_le (whole more) (Nat.le_max_right ..)
  obtain ⟨count, left, hg, part, brought, came, missing⟩ :=
    handed.brings.gather_of_late (Nat.le_add_right talk.now most) late' whole'
  have hg' : Source.gather (limit.map (talk.now + ·)) used.length talk.now talk.source.script =
      ⟨.expired, talk.now + most, rest.take count, left⟩ := by
    rw [limited]
    exact hg
  apply passes_of_gather hw handed agree hg' (by simp)
  intro halt stopped
  cases stopped
  rw [ready] at came
  apply Passage.late limited
  · exact Nat.add_lt_add_left part heard.length
  · rw [List.length_append]
    exact Nat.add_le_add_left brought heard.length
  · exact Nat.le_trans (Nat.le_max_right ..) came
  · rcases Nat.lt_or_ge count rest.length with less | all
    · have later := missing less
      rw [ready, ← Nat.add_assoc] at later
      right
      omega
    · obtain rfl : count = rest.length := Nat.le_antisymm brought all
      by_cases silent : tail = []
      · exact .inl ⟨List.length_append.symm, silent⟩
      · exact .inr (whole silent)

theorem passes_of_interruption
    (hw : ∀ deadline, Wire.Waits deadline (field deadline) used outcome) {due : Nat}
    {arrival : Arrival} {later : List Event}
    (handed : Handed (⟨due, arrival⟩ :: later) heard rest talk.now before talk.source)
    (agree : ∃ more, rest <+: used ++ more) (short : rest.length < used.length)
    (soon : ∀ most ∈ limit,
      readyAt 0 (heard.length + (rest.length + 1)) before.script ≤ talk.now + most) :
    ∃ failure, Passes (⟨due, arrival⟩ :: later) heard rest before talk.now [⟨step, limit, used⟩]
      (outcome.mapError (FieldHalt.during step)) failure (timed step limit field talk) := by
  have ready := handed.readyAt_eq_max (rest.length + 1)
  have size : (heard ++ rest).length = heard.length + rest.length := List.length_append
  have early : ∀ moment ∈ limit.map (talk.now + ·),
      readyAt talk.now (rest.length + 1) talk.source.script ≤ moment := by
    intro moment hm
    obtain ⟨most, limited, rfl⟩ := Option.map_eq_some_iff.mp hm
    have there := soon most limited
    rw [ready]
    omega
  obtain ⟨halts, left, hg, why⟩ := handed.brings.gather_of_interrupted short early
  rw [← Nat.add_assoc, ← size] at soon ready
  rw [ready, ← List.take_length (l := rest)] at hg
  have incomplete : halts ≠ .complete := by
    rcases why with ⟨rfl, -⟩ | ⟨kind, rfl, -⟩ <;> simp
  have short' : (heard ++ rest).length < heard.length + used.length := by
    rw [size]
    omega
  apply passes_of_gather hw handed agree hg incomplete
  intro halt stopped
  rw [List.take_length] at hg ⊢
  rw [← size]
  rcases why with ⟨rfl, rfl⟩ | ⟨kind, rfl, rfl⟩
  · cases stopped with
    | ended kind =>
      apply Passage.interrupted rfl
      · exact .ended kind
      · exact short'
      · exact soon
  · cases stopped
    apply Passage.interrupted rfl
    · exact .fault
    · exact short'
    · exact soon

theorem passes_of_silence (hw : ∀ deadline, Wire.Waits deadline (field deadline) used outcome)
    (handed : Handed [] heard rest talk.now before talk.source)
    (agree : ∃ more, rest <+: used ++ more) (short : rest.length < used.length)
    (unlimited : limit = none) :
    ∃ failure, Passes [] heard rest before talk.now [⟨step, limit, used⟩]
      (outcome.mapError (FieldHalt.during step)) failure (timed step limit field talk) := by
  have size : (heard ++ rest).length = heard.length + rest.length := List.length_append
  obtain ⟨time, left, hg⟩ : ∃ time left,
      Source.gather (limit.map (talk.now + ·)) used.length talk.now talk.source.script =
        ⟨.parked, time, rest.take rest.length, left⟩ := by
    rw [unlimited, List.take_length]
    exact handed.brings.gather_of_silence short
  apply passes_of_gather hw handed agree hg (by simp)
  intro halt stopped
  cases stopped
  rw [← size]
  apply Passage.parked unlimited rfl
  rw [size]
  exact Nat.add_lt_add_left short heard.length

/-- A step waits for its field until the limit or an interruption. -/
theorem timed_awaits (step : Step) (limit : Option Nat)
    (hw : ∀ deadline, Wire.Waits deadline (field deadline) used outcome) :
    Awaits (timed step limit field) [⟨step, limit, used⟩]
      (outcome.mapError (FieldHalt.during step)) := by
  intro tail heard rest more before talk handed agree
  rw [Awaited.join_cons, Awaited.join_nil, List.append_nil] at agree
  by_cases enough : used.length ≤ rest.length
  · obtain ⟨left, rfl⟩ : used <+: rest :=
      List.prefix_of_prefix_length_le (List.prefix_append used more) agree enough
    by_cases soon : ∀ most ∈ limit,
        readyAt 0 (heard.length + used.length) before.script ≤ talk.now + most
    · exact ⟨none, passes_of_arrival hw handed soon⟩
    · simp only [Classical.not_forall, Nat.not_le] at soon
      obtain ⟨most, limited, late⟩ := soon
      apply passes_of_late hw handed ⟨more, agree⟩ limited (fun _ => late)
      intro _
      apply Nat.lt_of_lt_of_le late
      apply Source.readyAt_mono
      omega
  · have short : rest.length < used.length := Nat.lt_of_not_le enough
    cases tail with
    | nil =>
      cases hl : limit with
      | none => exact passes_of_silence hw handed ⟨more, agree⟩ short rfl
      | some most =>
        apply passes_of_late hw handed ⟨more, agree⟩ rfl
        · intro there
          exact absurd there enough
        · intro no
          exact absurd rfl no
    | cons event later =>
      by_cases soon : ∀ most ∈ limit,
          readyAt 0 (heard.length + (rest.length + 1)) before.script ≤ talk.now + most
      · exact passes_of_interruption hw handed ⟨more, agree⟩ short soon
      · simp only [Classical.not_forall, Nat.not_le] at soon
        obtain ⟨most, limited, late⟩ := soon
        apply passes_of_late hw handed ⟨more, agree⟩ limited
        · intro there
          exact absurd there enough
        · intro _
          exact late

end Stage

variable {hello candidate host : List UInt8} {readTimeout : Nat}

theorem greet_awaits (readTimeout : Nat) (fits : hello.length < 65536) :
    Awaits (greet readTimeout) [⟨.hello, some readTimeout, Wire.frame hello⟩] (.ok ()) :=
  (timed_awaits _ _ fun _ => Wire.skipString_waits fits).judge (note_awaits _ _)

theorem demandSecret_awaits (secret : Secret) (readTimeout : Nat)
    (whole : candidate.length = Secret.length) :
    Awaits (demandSecret secret readTimeout) [⟨.secret, some readTimeout, candidate⟩]
      (if candidate = secret.bytes then .ok () else .error (.failed .badSecret)) := by
  apply (timed_awaits _ _ fun _ => Wire.readBytes_waits whole rfl).judge
  rw [checkSecret]
  by_cases right : candidate = secret.bytes
  · rw [if_pos right, if_pos (Secret.admits_iff.mpr right)]
    exact Awaits.pure ()
  · rw [if_neg right, if_neg (mt Secret.admits_iff.mp right)]
    exact Awaits.throw _

theorem learnLimit_awaits (readTimeout : Nat) {milliseconds : Int32}
    (positive : 0 ≤ milliseconds.toInt) :
    Awaits (learnLimit readTimeout) [⟨.timeout, some readTimeout, Wire.encodeI32 milliseconds⟩]
      (.ok (pooling milliseconds)) := by
  apply (timed_awaits _ _ fun _ => Wire.readI32_waits milliseconds).judge
  rw [requestedLimit, if_neg (Int.not_lt.mpr positive), pooling]
  split <;> exact Awaits.pure _

theorem learnLimit_awaits_negative (readTimeout : Nat) {milliseconds : Int32}
    (negative : milliseconds.toInt < 0) :
    Awaits (learnLimit readTimeout) [⟨.timeout, some readTimeout, Wire.encodeI32 milliseconds⟩]
      (.error (.failed (.protocol .timeout (.negativeTimeout milliseconds)))) := by
  apply (timed_awaits _ _ fun _ => Wire.readI32_waits milliseconds).judge
  rw [requestedLimit, if_pos negative]
  exact Awaits.throw _

theorem learnDestination_awaits_host (pooling : Option Nat) (fits : host.length < 65536)
    (ill : ∀ text, host ≠ Utf8.encode text) :
    Awaits (learnDestination pooling) [⟨.destination, pooling, Wire.frame host⟩]
      (.error (.failed (.protocol .destination .invalidUtf8))) := by
  have refused : Wire.textOf host = .error (.failed .invalidUtf8) := by
    cases hd : Utf8.decode? host with
    | none => simp only [Wire.textOf, hd]
    | some text => exact absurd (Utf8.decode?_eq_some_iff.mp hd) (ill text)
  apply Awaits.bind_error
  have name := timed_awaits .destination pooling fun _ => Wire.readString_waits fits
  rwa [refused] at name

theorem learnDestination_awaits {name : String} (pooling : Option Nat) (port : UInt16)
    (fits : (Utf8.encode name).length < 65536) :
    Awaits (learnDestination pooling)
      [⟨.destination, pooling, Wire.frame (Utf8.encode name)⟩,
        ⟨.destination, pooling, Wire.encodeU16 port⟩] (.ok ⟨name, port⟩) := by
  have text : Wire.textOf (Utf8.encode name) = .ok name := by
    simp only [Wire.textOf, Utf8.decode?_encode]
  have host := timed_awaits .destination pooling fun _ => Wire.readString_waits fits
  rw [text] at host
  exact host.bind ((timed_awaits _ _ fun _ => Wire.readU16_waits port).judge (Awaits.pure _))

end Handshake

end TunnelServer
