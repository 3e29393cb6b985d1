import TunnelServer.Config.Read
import TunnelServer.Config.Write
import TunnelServer.Proofs.Toml.Assembly

/-!
# A configuration is read as it was written

Every configuration whose numbers fit into a document can be written, and what is written is read
back as the same configuration, whatever its strings hold.
-/

namespace TunnelServer

open Toml (Entries Value)

/-! ## The entries of a configuration -/

def TimeoutField.limit (timeouts : TimeoutConfig) : TimeoutField → UInt64
  | .handshake => timeouts.handshake
  | .transfer => timeouts.transfer
  | .connect => timeouts.connect
  | .peerJoin => timeouts.peerJoin

def TimeoutConfig.value (timeouts : TimeoutConfig) (field : TimeoutField) : Value :=
  .integer (field.limit timeouts).toNat

def TimeoutConfig.entries (timeouts : TimeoutConfig) : Entries :=
  TimeoutField.all.map fun field => (field.name, timeouts.value field)

def ServerConfig.value (server : ServerConfig) : ServerField → Value
  | .password => .string server.password
  | .port => .integer server.port.toNat
  | .bind => .string server.bind
  | .cert => .string server.cert
  | .privateKey => .string server.privateKey
  | .debug => .boolean server.debug
  | .sendBufferSize => .integer server.sendBufferSize.toNat
  | .recvBufferSize => .integer server.recvBufferSize.toNat
  | .relayBufferSize => .integer server.relayBufferSize.toNat
  | .rejectLoopback => .boolean server.rejectLoopback
  | .timeouts => .table .header server.timeouts.entries

/-- The fields that are written on lines of their own. -/
def ServerField.scalars : List ServerField :=
  [.password, .port, .bind, .cert, .privateKey, .debug, .sendBufferSize, .recvBufferSize,
    .relayBufferSize, .rejectLoopback]

theorem ServerField.all_eq_scalars : ServerField.all = scalars ++ [.timeouts] := rfl

def ServerConfig.scalarEntries (server : ServerConfig) : Entries :=
  ServerField.scalars.map fun field => (field.name, server.value field)

def ServerConfig.entries (server : ServerConfig) : Entries :=
  ServerField.all.map fun field => (field.name, server.value field)

def LoggingField.text (logging : LoggingConfig) : LoggingField → String
  | .level => logging.level
  | .format => logging.format

def LoggingConfig.value (logging : LoggingConfig) (field : LoggingField) : Value :=
  .string (field.text logging)

def LoggingConfig.entries (logging : LoggingConfig) : Entries :=
  LoggingField.all.map fun field => (field.name, logging.value field)

def Config.value (config : Config) : Section → Value
  | .server => .table .header config.server.entries
  | .logging => .table .header config.logging.entries

def Config.entries (config : Config) : Entries :=
  Section.all.map fun part => (part.name, config.value part)

/-! ## Reading the entries -/

namespace Config

theorem readNat_ofNat {n bound : Nat} (expected : Expected) (h : n < bound) :
    readNat expected bound (.integer n) = .ok n := by
  have fits : (0 : Int) ≤ n ∧ (n : Int) < bound := by omega
  rw [readNat, if_pos fits, Int.toNat_natCast]

section Entries

variable {field settings : Type} {fields order : List field} {name : field → String}
  {value : field → Value} {assign : settings → field → Value → Fit settings} {start : settings}

theorem readEntries_map (found : ∀ f ∈ order, fields.find? (name · = name f) = some f) :
    readEntries fields name assign start (order.map fun f => (name f, value f)) =
      order.foldlM (fun current f => assign current f (value f)) start := by
  induction order generalizing start with
  | nil => rfl
  | cons f order ih =>
    have others : ∀ f ∈ order, fields.find? (name · = name f) = some f :=
      fun f hf => found f (List.mem_cons_of_mem _ hf)
    have here := found f List.mem_cons_self
    rw [List.map_cons, readEntries, List.foldlM_cons, List.foldlM_cons]
    simp only [here]
    congr 1
    funext current
    exact ih others

theorem names_eq : (fields.map fun f => (name f, value f)).map Prod.fst = fields.map name :=
  List.map_map

theorem nodup_names (h : (fields.map name).Nodup) :
    ((fields.map fun f => (name f, value f)).map Prod.fst).Nodup := by
  rwa [names_eq]

end Entries

theorem readTimeouts_entries (timeouts : TimeoutConfig) :
    readTimeouts (.table .header timeouts.entries) = .ok timeouts := by
  have found : ∀ f ∈ TimeoutField.all, TimeoutField.all.find? (·.name = f.name) = some f := by
    decide
  have limit (field : TimeoutField) :
      readNat .unsigned64 UInt64.size (timeouts.value field) = .ok (field.limit timeouts).toNat :=
    readNat_ofNat _ (UInt64.toNat_lt _)
  rw [readTimeouts, readSection, TimeoutConfig.entries, readEntries_map found]
  simp only [TimeoutField.all, List.foldlM_cons, List.foldlM_nil, assignTimeout, limit,
    TimeoutField.limit]
  simp [bind, Except.bind, pure, Except.pure]

theorem readServer_entries (server : ServerConfig) :
    readServer (.table .header server.entries) = .ok server := by
  have found : ∀ f ∈ ServerField.all, ServerField.all.find? (·.name = f.name) = some f := by
    decide
  rw [readServer, readSection, ServerConfig.entries, readEntries_map found]
  have port := readNat_ofNat .unsigned16 server.port.toNat_lt_size
  have sendBuffer := readNat_ofNat .unsigned32 server.sendBufferSize.toNat_lt_size
  have recvBuffer := readNat_ofNat .unsigned32 server.recvBufferSize.toNat_lt_size
  have relayBuffer := readNat_ofNat .size server.relayBufferSize.toNat_lt_size
  simp only [ServerField.all, List.foldlM_cons, List.foldlM_nil, assignServer, ServerConfig.value,
    readString, readBool, readTimeouts_entries, port, sendBuffer, recvBuffer, relayBuffer]
  simp [bind, Except.bind, pure, Except.pure]

theorem readLogging_entries (logging : LoggingConfig) :
    readLogging (.table .header logging.entries) = .ok logging := by
  have found : ∀ f ∈ LoggingField.all, LoggingField.all.find? (·.name = f.name) = some f := by
    decide
  rw [readLogging, readSection, LoggingConfig.entries, readEntries_map found]
  rfl

theorem ofEntries_entries (config : Config) : ofEntries config.entries = .ok config := by
  have found : ∀ f ∈ Section.all, Section.all.find? (·.name = f.name) = some f := by
    decide
  rw [ofEntries, Config.entries, readEntries_map found]
  simp only [Section.all, List.foldlM_cons, List.foldlM_nil, assignSection, Config.value,
    readServer_entries, readLogging_entries]
  rfl

/-! ## Writing the entries -/

section Writing

variable {α β ε : Type} {first : Except ε α} {next : α → Except ε β} {write : α → Except ε β}

theorem bind_eq_ok_iff {result : β} :
    (first >>= next) = .ok result ↔ ∃ value, first = .ok value ∧ next value = .ok result := by
  cases first with
  | error => simp [bind, Except.bind]
  | ok => simp [bind, Except.bind]

theorem exists_bind_pure_iff {place : α → β} :
    (∃ result, (first >>= fun value => pure (place value)) = .ok result) ↔
      ∃ value, first = .ok value := by
  cases first with
  | error => simp [bind, Except.bind]
  | ok => simp [bind, Except.bind, pure, Except.pure]

theorem mapM_cons_eq_ok_iff {item : α} {items : List α} {results : List β} :
    (item :: items).mapM write = .ok results ↔ ∃ result others, write item = .ok result ∧
      items.mapM write = .ok others ∧ results = result :: others := by
  rw [List.mapM_cons, bind_eq_ok_iff]
  simp only [bind_eq_ok_iff, pure, Except.pure, Except.ok.injEq]
  grind

theorem exists_mapM_eq_ok_iff {items : List α} :
    (∃ results, items.mapM write = .ok results) ↔
      ∀ item ∈ items, ∃ result, write item = .ok result := by
  induction items with
  | nil => simp [pure, Except.pure]
  | cons item items ih =>
    rw [List.forall_mem_cons, ← ih]
    simp only [mapM_cons_eq_ok_iff]
    grind

end Writing

open Toml.Scanner (Denotes IsBare Reads)

theorem writeNat_eq (n : Nat) : writeNat n =
    if n ≤ 9223372036854775807 then .ok (Numeral.digits 10 n) else .error .outOfRange := by
  have half : UInt64.size / 2 = 9223372036854775807 + 1 := rfl
  simp only [writeNat, half, Nat.lt_succ_iff]

theorem exists_writeNat_iff {n : Nat} :
    (∃ text, writeNat n = .ok text) ↔ n ≤ 9223372036854775807 := by
  rw [writeNat_eq]
  split <;> simp_all

theorem denotes_of_writeNat {n : Nat} {text : List Char} (h : writeNat n = .ok text) :
    Denotes text (.integer n) := by
  have small := exists_writeNat_iff.mp ⟨text, h⟩
  rw [writeNat_eq, if_pos small] at h
  cases h
  exact Toml.Scanner.denotes_digits small

section Fields

variable {field : Type} {fields : List field} {name : field → String} {value : field → Value}
  {write : field → Except WriteError (List Char)} {rest : List Char}
  {found : List Toml.Scanner.Line} {lines : List (List Char)}

/-- A field is written on a line of its own, as its value under its name. -/
def WritesLine (name : field → String) (value : field → Value)
    (write : field → Except WriteError (List Char)) (f : field) : Prop :=
  ∀ line, write f = .ok line →
    ∃ written, line = writeLine (name f) written ∧ Denotes written (value f)

theorem reads_fields (bare : ∀ f ∈ fields, IsBare (name f).toList)
    (h : ∀ f ∈ fields, WritesLine name value write f) (written : fields.mapM write = .ok lines)
    (hr : Reads rest found) :
    Reads (lines.flatten ++ rest)
      ((Entries.assignments (fields.map fun f => (name f, value f))).map .assignment ++ found) := by
  induction fields generalizing lines with
  | nil =>
    cases written
    exact hr
  | cons f fields ih =>
    obtain ⟨line, others, hl, ho, rfl⟩ := mapM_cons_eq_ok_iff.mp written
    obtain ⟨text, rfl, denotes⟩ := h f List.mem_cons_self line hl
    rw [List.forall_mem_cons] at bare h
    have later := ih bare.2 h.2 ho
    have equals : " = ".toList = [' ', '=', ' '] := by decide
    simpa [writeLine, equals, Entries.assignments] using later.assignment bare.1 denotes.stands

end Fields

/-! ## The sections -/

section Timeouts

variable {timeouts : TimeoutConfig} {text rest : List Char} {found : List Toml.Scanner.Line}

theorem writeTimeout_eq (timeouts : TimeoutConfig) (f : TimeoutField) :
    writeTimeout timeouts f = writeNat (f.limit timeouts).toNat := by
  cases f <;> rfl

theorem writesLine_timeouts (f : TimeoutField) :
    WritesLine TimeoutField.name timeouts.value
      (fun f => do return writeLine f.name (← writeTimeout timeouts f)) f := by
  intro line h
  obtain ⟨written, hw, he⟩ := bind_eq_ok_iff.mp h
  cases he
  rw [writeTimeout_eq] at hw
  exact ⟨written, rfl, denotes_of_writeNat hw⟩

theorem exists_writeTimeouts_iff :
    (∃ text, writeTimeouts timeouts = .ok text) ↔
      ∀ f ∈ TimeoutField.all, (f.limit timeouts).toNat ≤ 9223372036854775807 := by
  rw [writeTimeouts, exists_bind_pure_iff, exists_mapM_eq_ok_iff]
  simp only [exists_bind_pure_iff, writeTimeout_eq, exists_writeNat_iff]

theorem reads_timeouts (h : writeTimeouts timeouts = .ok text) (hr : Reads rest found) :
    Reads (text ++ rest) (.header ⟨false, ["server"], "timeouts"⟩ ::
      (timeouts.entries.assignments.map .assignment ++ found)) := by
  obtain ⟨lines, hl, he⟩ := bind_eq_ok_iff.mp h
  cases he
  have fields := reads_fields (by decide) (fun f _ => writesLine_timeouts f) hl hr
  have header : "\n[server.timeouts]\n".toList =
      '\n' :: '[' :: ("server".toList ++ '.' :: ("timeouts".toList ++ [']', '\n'])) := by decide
  have outer : IsBare "server".toList := by decide
  have inner : IsBare "timeouts".toList := by decide
  have headed := (fields.inside outer inner).blank
  simpa [header, TimeoutConfig.entries] using headed

end Timeouts

section Server

variable {server : ServerConfig} {text rest : List Char} {found : List Toml.Scanner.Line}

theorem line_of_writeNat {name : String} {n : Nat} {line : List Char}
    (h : writeLine name <$> writeNat n = .ok line) :
    ∃ written, line = writeLine name written ∧ Denotes written (.integer n) := by
  rw [map_eq_pure_bind, bind_eq_ok_iff] at h
  obtain ⟨written, hw, he⟩ := h
  cases he
  exact ⟨written, rfl, denotes_of_writeNat hw⟩

theorem writesLine_server (server : ServerConfig) :
    ∀ f ∈ ServerField.scalars,
      WritesLine ServerField.name server.value (writeServerField server) f := by
  intro f hf line h
  have string (text : String) : Denotes (Toml.writeString text) (.string text) :=
    Toml.Scanner.denotes_writeString text
  have boolean (value : Bool) : Denotes (writeBool value) (.boolean value) :=
    Toml.Scanner.denotes_boolean value
  cases f with
  | password | bind | cert | privateKey =>
    cases h
    exact ⟨_, rfl, string _⟩
  | debug | rejectLoopback =>
    cases h
    exact ⟨_, rfl, boolean _⟩
  | port | sendBufferSize | recvBufferSize | relayBufferSize => exact line_of_writeNat h
  | timeouts => exact absurd hf (by decide)

theorem exists_writeServer_iff :
    (∃ text, writeServer server = .ok text) ↔ server.relayBufferSize.toNat ≤ 9223372036854775807 ∧
      ∀ f ∈ TimeoutField.all, (f.limit server.timeouts).toNat ≤ 9223372036854775807 := by
  have port : server.port.toNat ≤ 9223372036854775807 := by
    have := server.port.toNat_lt
    omega
  have sendBuffer : server.sendBufferSize.toNat ≤ 9223372036854775807 := by
    have := server.sendBufferSize.toNat_lt
    omega
  have recvBuffer : server.recvBufferSize.toNat ≤ 9223372036854775807 := by
    have := server.recvBufferSize.toNat_lt
    omega
  rw [writeServer, exists_bind_pure_iff, exists_mapM_eq_ok_iff, ServerField.all_eq_scalars,
    List.forall_mem_append, ← exists_writeTimeouts_iff]
  apply and_congr
  · simp only [ServerField.scalars, List.forall_mem_cons, writeServerField, map_eq_pure_bind,
      exists_bind_pure_iff, exists_writeNat_iff, port, sendBuffer, recvBuffer]
    simp
  · simp [writeServerField]

theorem reads_server (h : writeServer server = .ok text) (hr : Reads rest found) :
    Reads (text ++ rest) (.header ⟨false, [], "server"⟩ ::
      (server.scalarEntries.assignments.map .assignment ++
        .header ⟨false, ["server"], "timeouts"⟩ ::
          (server.timeouts.entries.assignments.map .assignment ++ found))) := by
  obtain ⟨lines, hl, he⟩ := bind_eq_ok_iff.mp h
  cases he
  rw [ServerField.all_eq_scalars, List.mapM_append, bind_eq_ok_iff] at hl
  obtain ⟨scalarLines, hs, hl⟩ := hl
  obtain ⟨last, ht, he⟩ := bind_eq_ok_iff.mp hl
  cases he
  obtain ⟨timeouts, none, written, hn, rfl⟩ := mapM_cons_eq_ok_iff.mp ht
  cases hn
  have fields := reads_fields (by decide) (writesLine_server server) hs (reads_timeouts written hr)
  have header : "[server]\n".toList = '[' :: ("server".toList ++ [']', '\n']) := by decide
  have bare : IsBare "server".toList := by decide
  simpa [header, ServerConfig.scalarEntries] using fields.table bare

end Server

section Logging

variable {logging : LoggingConfig} {rest : List Char} {found : List Toml.Scanner.Line}

theorem writeLogging_eq (logging : LoggingConfig) : writeLogging logging =
    "\n[logging]\n".toList ++
      (LoggingField.all.map fun f =>
        writeLine f.name (Toml.writeString (f.text logging))).flatten := by
  rw [← List.flatMap_def]
  rfl

theorem writesLine_logging (f : LoggingField) : WritesLine LoggingField.name logging.value
    (fun f => .ok (writeLine f.name (Toml.writeString (f.text logging)))) f := by
  intro line h
  have he : writeLine f.name (Toml.writeString (f.text logging)) = line := Except.ok.inj h
  exact ⟨Toml.writeString (f.text logging), he.symm, Toml.Scanner.denotes_writeString _⟩

theorem reads_logging (hr : Reads rest found) :
    Reads (writeLogging logging ++ rest) (.header ⟨false, [], "logging"⟩ ::
      (logging.entries.assignments.map .assignment ++ found)) := by
  have written := List.mapM_pure (m := Except WriteError) (l := LoggingField.all)
    (f := fun f => writeLine f.name (Toml.writeString (f.text logging)))
  have fields := reads_fields (by decide) (fun f _ => writesLine_logging f) written hr
  have header : "\n[logging]\n".toList = '\n' :: '[' :: ("logging".toList ++ [']', '\n']) := by
    decide
  have bare : IsBare "logging".toList := by decide
  have headed := (fields.table bare).blank
  rw [writeLogging_eq]
  simpa [header, LoggingConfig.entries] using headed

end Logging

/-! ## The whole configuration -/

variable {config : Config}

theorem exists_write_iff :
    (∃ text, config.write = .ok text) ↔ config.server.relayBufferSize.toNat ≤ 9223372036854775807 ∧
      ∀ f ∈ TimeoutField.all, (f.limit config.server.timeouts).toNat ≤ 9223372036854775807 := by
  rw [write, exists_bind_pure_iff, exists_writeServer_iff]

/-- The lines of a configuration. -/
def lines (config : Config) : List Toml.Scanner.Line :=
  .header ⟨false, [], "server"⟩ ::
    (config.server.scalarEntries.assignments.map .assignment ++
      .header ⟨false, ["server"], "timeouts"⟩ ::
        (config.server.timeouts.entries.assignments.map .assignment ++
          .header ⟨false, [], "logging"⟩ ::
            config.logging.entries.assignments.map .assignment))

theorem reads_write {text : String} (h : config.write = .ok text) :
    Reads text.toList config.lines := by
  obtain ⟨server, hs, he⟩ := bind_eq_ok_iff.mp h
  cases he
  have logging := @reads_logging config.logging _ _ Reads.nil
  simpa [lines] using reads_server hs logging

theorem head?_write {text : String} (h : config.write = .ok text) :
    text.toList.head? = some '[' := by
  obtain ⟨server, hs, he⟩ := bind_eq_ok_iff.mp h
  cases he
  obtain ⟨fields, hf, he⟩ := bind_eq_ok_iff.mp hs
  cases he
  simp

theorem ofBlocks?_lines (config : Config) :
    Entries.ofBlocks? (Toml.groupLines config.lines).1 (Toml.groupLines config.lines).2 =
      some config.entries := by
  have server : Entries.addBlock? []
      ⟨⟨false, [], "server"⟩, config.server.scalarEntries.assignments⟩ =
        some [("server", .table .header config.server.scalarEntries)] :=
    Entries.addBlock?_top (by simp) (nodup_names (by decide))
  have fresh : "timeouts" ∉ config.server.scalarEntries.map Prod.fst := by
    rw [ServerConfig.scalarEntries, names_eq]
    decide
  have timeouts : Entries.addBlock? [("server", .table .header config.server.scalarEntries)]
      ⟨⟨false, ["server"], "timeouts"⟩, config.server.timeouts.entries.assignments⟩ =
        some [("server", .table .header config.server.entries)] :=
    Entries.addBlock?_inside rfl fresh (nodup_names (by decide))
  have logging : Entries.addBlock? [("server", .table .header config.server.entries)]
      ⟨⟨false, [], "logging"⟩, config.logging.entries.assignments⟩ = some config.entries :=
    Entries.addBlock?_top (by simp) (nodup_names (by decide))
  rw [lines]
  have last := Toml.groupLines_append config.logging.entries []
  simp only [Toml.groupLines, List.append_nil] at last
  simp only [Toml.groupLines, Toml.groupLines_append, last, List.append_nil]
  simp [Entries.ofBlocks?, Entries.putAll?, server, timeouts, logging]

theorem read?_write {text : String} (h : config.write = .ok text) :
    Toml.read? text = some config.entries := by
  have unmarked : text.toList.head? ≠ some '\uFEFF' := by
    rw [head?_write h]
    decide
  exact (Toml.read?_of_reads (reads_write h) unmarked).trans (ofBlocks?_lines config)

theorem load_write {text : String} (h : config.write = .ok text) :
    load (.ok (Utf8.encode text)) = .ok config := by
  rw [load, ofBytes, Utf8.decode?_encode]
  simp only [ofText, read?_write h, ofEntries_entries]
  rfl

/-- A configuration can be written if and only if none of its numbers is larger than 2^63 - 1, the
largest integer of a document, and it is then read back as it was. -/
theorem write_load (config : Config) :
    ((∃ text, config.write = .ok text) ↔ config.server.relayBufferSize.toNat ≤ 9223372036854775807 ∧
      config.server.timeouts.handshake.toNat ≤ 9223372036854775807 ∧
      config.server.timeouts.transfer.toNat ≤ 9223372036854775807 ∧
      config.server.timeouts.connect.toNat ≤ 9223372036854775807 ∧
      config.server.timeouts.peerJoin.toNat ≤ 9223372036854775807) ∧
    ∀ text, config.write = .ok text → load (.ok (Utf8.encode text)) = .ok config := by
  constructor
  · rw [exists_write_iff]
    simp only [TimeoutField.all, List.forall_mem_cons, TimeoutField.limit]
    simp
  · intro text h
    exact load_write h

/-- A configuration with quotes, line ends and control codes in its strings, and with the largest
number of a document. -/
def awkward : Config where
  server :=
    { ServerConfig.standard with
      password := "\"\"\" and \'\'\'"
      cert := "C:\\keys\r\n"
      relayBufferSize := 9223372036854775807 }
  logging := ⟨"\u0007", ""⟩

theorem write_load_awkward :
    ∃ text, awkward.write = .ok text ∧ load (.ok (Utf8.encode text)) = .ok awkward := by
  obtain ⟨writable, read⟩ := write_load awkward
  obtain ⟨text, h⟩ := writable.mpr (by decide)
  exact ⟨text, h, read text h⟩

end Config

end TunnelServer
