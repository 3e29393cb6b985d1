import Mathlib.Data.List.Induction
import TunnelServer.Proofs.Config.Partial

/-!
# What a document gives

A document gives values for some fields of a configuration. Wherever a section comes from, a table
gives values by the names of the fields and an array gives them in their order, and the last value
that is given for a field is the one that counts. A field that is given no value has its standard
value.
-/

namespace TunnelServer

open Toml (Entries Value)

/-! ## Sections -/

section Sections

variable {field settings α : Type} {fields : List field} {name : field → String}
  {assign : settings → field → Value → Config.Fit settings} {start after : settings} {f : field}
  {value : Value} {expected : Expected} {view : settings → α} {means : Value → α → Prop}
  {items : List (field × Value)}

/-- What a section gives for its fields, one after another. -/
def givings (fields : List field) (name : field → String) : Value → List (field × Value)
  | .table _ entries => entries.filterMap fun entry =>
    (fields.find? (name · = entry.1)).map (·, entry.2)
  | .array items => fields.zip items
  | .tables elements => fields.zip (elements.map (.table .header))
  | _ => []

theorem foldlM_givings
    (h : Config.readSection expected fields name assign start value = .ok after) :
    (givings fields name value).foldlM (fun current item => assign current item.1 item.2) start =
      .ok after := by
  cases value with
  | table kind entries =>
    rw [givings, List.foldlM_filterMap, ← h]
    simp only [Config.readSection, Config.readEntries]
    congr 1
    funext current entry
    cases fields.find? (name · = entry.1) <;> rfl
  | array items => exact h
  | tables elements => exact h
  | dateTime => exact h
  | _ => cases h

/-- What is viewed of the settings is what the value of this field means, and no other field has to
do with it. -/
structure Governs (assign : settings → field → Value → Config.Fit settings) (f : field)
    (view : settings → α) (means : Value → α → Prop) : Prop where
  hit : ∀ current value after, assign current f value = .ok after → means value (view after)
  miss : ∀ current g value after, g ≠ f → assign current g value = .ok after →
    view after = view current

variable [DecidableEq field]

/-- The last value that is given for a field counts, and without any nothing changes. -/
theorem Governs.foldlM (h : Governs assign f view means)
    (read : items.foldlM (fun current item => assign current item.1 item.2) start = .ok after) :
    match items.reverse.lookup f with
    | some value => means value (view after)
    | none => view after = view start := by
  induction items using List.reverseRecOn generalizing after with
  | nil =>
    cases read
    rfl
  | append_singleton items last ih =>
    obtain ⟨g, value⟩ := last
    rw [List.foldlM_append, Config.bind_eq_ok_iff] at read
    obtain ⟨before, earlier, here⟩ := read
    rw [List.foldlM_cons, Config.bind_eq_ok_iff] at here
    obtain ⟨after, assigned, same⟩ := here
    cases same
    rw [List.reverse_append, List.reverse_singleton, List.singleton_append, List.lookup_cons]
    by_cases other : g = f
    · subst other
      simpa using h.hit before value after assigned
    · have differ : (f == g) = false := by simpa using Ne.symm other
      rw [differ, h.miss before g value after other assigned]
      exact ih earlier

/-- The value that a section gives for a field. -/
def given? (fields : List field) (name : field → String) (value : Value) (f : field) :
    Option Value :=
  (givings fields name value).reverse.lookup f

theorem Governs.readSection (h : Governs assign f view means)
    (read : Config.readSection expected fields name assign start value = .ok after) :
    match given? fields name value f with
    | some found => means found (view after)
    | none => view after = view start :=
  h.foldlM (foldlM_givings read)

theorem Governs.value_readSection {shown : settings → Value}
    (h : Governs assign f shown fun value seen => seen = value)
    (read : Config.readSection expected fields name assign start value = .ok after) :
    shown after = (given? fields name value f).getD (shown start) := by
  have last := h.readSection read
  cases found : given? fields name value f <;>
  · simp only [found] at last
    exact last

theorem Governs.inner_readSection {inner : Value → Option Value} {shown : α → Value}
    {standard : Value} (h : Governs assign f view means)
    (within : ∀ part seen, means part seen → shown seen = (inner part).getD standard)
    (before : shown (view start) = standard)
    (read : Config.readSection expected fields name assign start value = .ok after) :
    shown (view after) = ((given? fields name value f).bind inner).getD standard := by
  have last := h.readSection read
  cases found : given? fields name value f with
  | none =>
    simp only [found] at last
    rw [last]
    exact before
  | some part =>
    simp only [found] at last
    exact within part (view after) last

end Sections

/-! ## Values of fields -/

namespace Config

variable {expected : Expected} {value : Value}

theorem readString_eq_ok_iff {text : String} :
    readString expected value = .ok text ↔ value = .string text := by
  cases value <;> simp [readString]

theorem readBool_eq_ok_iff {b : Bool} : readBool value = .ok b ↔ value = .boolean b := by
  cases value <;> simp [readBool]

theorem readNat_eq_ok_iff {bound n : Nat} :
    readNat expected bound value = .ok n ↔ n < bound ∧ value = .integer n := by
  cases value with
  | integer found =>
    simp only [readNat, Value.integer.injEq]
    split
    · rw [Except.ok.injEq]
      omega
    · simp only [reduceCtorEq, false_iff]
      omega
  | _ => simp [readNat]

theorem governs_limit (f : TimeoutField) :
    Governs assignTimeout f (·.value f) fun value seen => seen = value where
  hit current value after h := by
    obtain ⟨n, read, made⟩ := bind_eq_ok_iff.mp h
    obtain ⟨small, rfl⟩ := readNat_eq_ok_iff.mp read
    have kept := UInt64.toNat_ofNat_of_lt' small
    cases f <;>
    · cases made
      simp only [TimeoutConfig.value, TimeoutField.limit, kept]
  miss current g value after other h := by
    obtain ⟨n, -, made⟩ := bind_eq_ok_iff.mp h
    cases g <;> cases made <;> cases f <;> first | rfl | exact absurd rfl other

theorem governs_text (f : LoggingField) :
    Governs assignLogging f (·.value f) fun value seen => seen = value where
  hit current value after h := by
    cases f <;>
    · obtain ⟨text, read, made⟩ := bind_eq_ok_iff.mp h
      cases made
      rw [readString_eq_ok_iff.mp read]
      rfl
  miss current g value after other h := by
    cases g <;>
    · obtain ⟨text, -, made⟩ := bind_eq_ok_iff.mp h
      cases made
      cases f <;> first | rfl | exact absurd rfl other

theorem governs_scalar {f : ServerField} (scalar : f ≠ .timeouts) :
    Governs assignServer f (·.value f) fun value seen => seen = value where
  hit current value after h := by
    cases f with
    | password | bind | cert | privateKey =>
      obtain ⟨text, read, made⟩ := bind_eq_ok_iff.mp h
      cases made
      rw [readString_eq_ok_iff.mp read]
      rfl
    | debug | rejectLoopback =>
      obtain ⟨b, read, made⟩ := bind_eq_ok_iff.mp h
      cases made
      rw [readBool_eq_ok_iff.mp read]
      rfl
    | port =>
      obtain ⟨n, read, made⟩ := bind_eq_ok_iff.mp h
      obtain ⟨small, rfl⟩ := readNat_eq_ok_iff.mp read
      cases made
      simp only [ServerConfig.value, UInt16.toNat_ofNat_of_lt' small]
    | sendBufferSize | recvBufferSize =>
      obtain ⟨n, read, made⟩ := bind_eq_ok_iff.mp h
      obtain ⟨small, rfl⟩ := readNat_eq_ok_iff.mp read
      cases made
      simp only [ServerConfig.value, UInt32.toNat_ofNat_of_lt' small]
    | relayBufferSize =>
      obtain ⟨n, read, made⟩ := bind_eq_ok_iff.mp h
      obtain ⟨small, rfl⟩ := readNat_eq_ok_iff.mp read
      cases made
      simp only [ServerConfig.value, UInt64.toNat_ofNat_of_lt' small]
    | timeouts => exact absurd rfl scalar
  miss current g value after other h := by
    cases g <;>
    · obtain ⟨text, -, made⟩ := bind_eq_ok_iff.mp h
      cases made
      cases f <;> first | rfl | contradiction

theorem governs_timeouts : Governs assignServer .timeouts (·.timeouts) fun value seen =>
    readTimeouts value = .ok seen where
  hit current value after h := by
    obtain ⟨timeouts, read, made⟩ := bind_eq_ok_iff.mp h
    cases made
    exact read
  miss current g value after other h := by
    cases g <;>
    · obtain ⟨text, -, made⟩ := bind_eq_ok_iff.mp h
      cases made
      first | rfl | exact absurd rfl other

theorem governs_server : Governs assignSection .server (·.server) fun value seen =>
    readServer value = .ok seen where
  hit current value after h := by
    obtain ⟨server, read, made⟩ := bind_eq_ok_iff.mp h
    cases made
    exact read
  miss current g value after other h := by
    cases g with
    | server => exact absurd rfl other
    | logging =>
      obtain ⟨logging, -, made⟩ := bind_eq_ok_iff.mp h
      cases made
      rfl

theorem governs_logging : Governs assignSection .logging (·.logging) fun value seen =>
    readLogging value = .ok seen where
  hit current value after h := by
    obtain ⟨logging, read, made⟩ := bind_eq_ok_iff.mp h
    cases made
    exact read
  miss current g value after other h := by
    cases g with
    | logging => exact absurd rfl other
    | server =>
      obtain ⟨server, -, made⟩ := bind_eq_ok_iff.mp h
      cases made
      rfl

end Config

/-! ## Layers -/

/-- What one source says of the fields of a configuration: nothing, or a value. Nothing is said of
the section on time limits as a whole. -/
structure Layer where
  server : ServerField → Option Value
  timeouts : TimeoutField → Option Value
  logging : LoggingField → Option Value

namespace Layer

def blank : Layer := ⟨fun _ => none, fun _ => none, fun _ => none⟩

/-- What one layer does not say is left to another. -/
def above (upper lower : Layer) : Layer where
  server f := (upper.server f).or (lower.server f)
  timeouts f := (upper.timeouts f).or (lower.timeouts f)
  logging f := (upper.logging f).or (lower.logging f)

/-- The configuration has the values that the layer says, and standard values elsewhere. -/
structure Makes (layer : Layer) (config : Config) : Prop where
  server : ∀ f, f ≠ .timeouts →
    config.server.value f = (layer.server f).getD (ServerConfig.standard.value f)
  timeouts : ∀ f, config.server.timeouts.value f =
    (layer.timeouts f).getD (TimeoutConfig.standard.value f)
  logging : ∀ f, config.logging.value f = (layer.logging f).getD (LoggingConfig.standard.value f)

/-- What a document says. -/
def ofEntries (entries : Entries) : Layer :=
  let part := given? Section.all Section.name (.table .header entries)
  let inner (part : Value) := given? ServerField.all ServerField.name part
  { server := fun f => (part .server).bind fun value => inner value f
    timeouts := fun f => (part .server).bind fun value =>
      (inner value .timeouts).bind fun limits =>
        given? TimeoutField.all TimeoutField.name limits f
    logging := fun f => (part .logging).bind fun value =>
      given? LoggingField.all LoggingField.name value f }

theorem server_limit_eq {value : Value} {server : ServerConfig}
    (read : Config.readServer value = .ok server) (f : TimeoutField) :
    server.timeouts.value f =
      ((given? ServerField.all ServerField.name value .timeouts).bind fun limits =>
        given? TimeoutField.all TimeoutField.name limits f).getD
          (TimeoutConfig.standard.value f) := by
  have within (limits : Value) (seen : TimeoutConfig) (h : Config.readTimeouts limits = .ok seen) :=
    (Config.governs_limit f).value_readSection h
  exact Config.governs_timeouts.inner_readSection within rfl read

theorem readSection_of_ofEntries {entries : Entries} {config : Config}
    (read : Config.ofEntries entries = .ok config) :
    Config.readSection .serverSection Section.all Section.name Config.assignSection .standard
      (.table .header entries) = .ok config := read

theorem ofEntries_makes {entries : Entries} {config : Config}
    (read : Config.ofEntries entries = .ok config) : (ofEntries entries).Makes config where
  server f scalar := by
    have within (part : Value) (seen : ServerConfig) (h : Config.readServer part = .ok seen) :=
      (Config.governs_scalar scalar).value_readSection h
    exact Config.governs_server.inner_readSection within rfl (readSection_of_ofEntries read)
  timeouts f := by
    have within (part : Value) (seen : ServerConfig) (h : Config.readServer part = .ok seen) :=
      server_limit_eq h f
    exact Config.governs_server.inner_readSection within rfl (readSection_of_ofEntries read)
  logging f := by
    have within (part : Value) (seen : LoggingConfig) (h : Config.readLogging part = .ok seen) :=
      (Config.governs_text f).value_readSection h
    exact Config.governs_logging.inner_readSection within rfl (readSection_of_ofEntries read)

/-- What the content of a file says, if it is a document. -/
def ofContent (bytes : List UInt8) : Layer :=
  match (Utf8.decode? bytes).bind Toml.read? with
  | some entries => ofEntries entries
  | none => blank

theorem ofContent_makes {bytes : List UInt8} {config : Config}
    (loaded : Config.load (.ok bytes) = .ok config) : (ofContent bytes).Makes config := by
  rw [Config.load, Config.ofBytes] at loaded
  rw [ofContent]
  cases decoded : Utf8.decode? bytes with
  | none => simp [decoded] at loaded
  | some text =>
    simp only [decoded, Config.ofText] at loaded
    cases read : Toml.read? text with
    | none => simp [read] at loaded
    | some entries =>
      simp only [read] at loaded
      simp only [Option.bind_some, read]
      cases fits : Config.ofEntries entries with
      | error misfit => simp [fits, Except.mapError] at loaded
      | ok made =>
        rw [fits] at loaded
        cases loaded
        exact ofEntries_makes fits

theorem makes_standard : blank.Makes .standard := ⟨fun _ _ => rfl, fun _ => rfl, fun _ => rfl⟩

end Layer

end TunnelServer
