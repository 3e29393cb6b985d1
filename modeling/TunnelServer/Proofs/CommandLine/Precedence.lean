import TunnelServer.CommandLine.Startup
import TunnelServer.Proofs.CommandLine.Options
import TunnelServer.Proofs.Config.Given
import TunnelServer.Proofs.Config.Validity

/-!
# Command line over document over standard values

A program that is started with options has, field by field, the value of the option, or else the
value that the named document gives, or else the standard value. What becomes of the program depends
on this configuration alone: values that are overridden are never judged.
-/

namespace TunnelServer.CommandLine

open Toml (Value)

variable {choice : Choice} {choices : List Choice} {arguments : Arguments} {base config : Config}
  {written : List (List String)} {words : List String} {document : Layer}

/-! ## What the options say -/

namespace Choice

/-- What an option says of the server. -/
def server? : Choice → Option (ServerField × Value)
  | .password text => some (.password, .string text)
  | .serverPort port => some (.port, .integer port.toNat)
  | .cert path => some (.cert, .string path)
  | .privateKey path => some (.privateKey, .string path)
  | .debug => some (.debug, .boolean true)
  | .sendBuffer size => some (.sendBufferSize, .integer size.toNat)
  | .recvBuffer size => some (.recvBufferSize, .integer size.toNat)
  | .config _ | .logLevel _ => none

def logging? : Choice → Option (LoggingField × Value)
  | .logLevel text => some (.level, .string text)
  | _ => none

/-- What options say all together. -/
def layer (choices : List Choice) : Layer where
  server f := (choices.filterMap server?).lookup f
  timeouts _ := none
  logging f := (choices.filterMap logging?).lookup f

end Choice

theorem lookup_reverse {key value : Type} [DecidableEq key] {pairs : List (key × value)}
    (distinct : (pairs.map Prod.fst).Nodup) (k : key) :
    pairs.reverse.lookup k = pairs.lookup k := by
  induction pairs with
  | nil => rfl
  | cons pair pairs ih =>
    obtain ⟨key, value⟩ := pair
    obtain ⟨new, distinct⟩ := List.nodup_cons.mp distinct
    rw [List.reverse_cons, List.lookup_append, ih distinct, List.lookup_cons, List.lookup_cons]
    by_cases same : k = key
    · subst same
      have none : pairs.lookup k = none := by
        rw [List.lookup_eq_none_iff]
        intro other inside
        simp only [bne_iff_ne, ne_eq]
        exact fun again => new (List.mem_map.mpr ⟨other, inside, again.symm⟩)
      simp [none]
    · have differ : (k == key) = false := by simpa using same
      simp [differ]

/-! ## Options over a configuration -/

theorem override_blank (base : Config) : Arguments.blank.override base = base := rfl

section Sections

variable {field settings : Type} {said? : Choice → Option (field × Value)}
  {assign : settings → field → Value → Config.Fit settings} {part : Config → settings} {f : field}
  {shown : settings → Value}

/-- What options say of a section is what they do to it, and only one switch is for a field. -/
structure Speaks (said? : Choice → Option (field × Value))
    (assign : settings → field → Value → Config.Fit settings) (part : Config → settings) :
    Prop where
  hit : ∀ {choice : Choice} {f : field} {v : Value} (arguments : Arguments) (base : Config),
    said? choice = some (f, v) → assign (part (arguments.override base)) f v =
      .ok (part ((choice.apply arguments).override base))
  miss : ∀ {choice : Choice} (arguments : Arguments) (base : Config), said? choice = none →
    part ((choice.apply arguments).override base) = part (arguments.override base)
  alone : ∀ {first second : Choice} {f : field} {v w : Value}, said? first = some (f, v) →
    said? second = some (f, w) → first.switch = second.switch

theorem Speaks.nodup (h : Speaks said? assign part) (distinct : (choices.map Choice.switch).Nodup) :
    ((choices.filterMap said?).map Prod.fst).Nodup := by
  rw [List.nodup_iff_pairwise_ne, List.pairwise_map, List.pairwise_filterMap]
  rw [List.nodup_iff_pairwise_ne, List.pairwise_map] at distinct
  refine distinct.imp ?_
  rintro first second differ ⟨f, v⟩ said ⟨g, w⟩ said' rfl
  exact differ (h.alone said said')

theorem Speaks.foldlM (h : Speaks said? assign part) (choices : List Choice)
    (arguments : Arguments) (base : Config) :
    (choices.filterMap said?).foldlM (fun current item => assign current item.1 item.2)
      (part (arguments.override base)) =
        .ok (part ((choices.foldl Choice.apply arguments).override base)) := by
  induction choices generalizing arguments with
  | nil => rfl
  | cons choice choices ih =>
    rw [List.foldl_cons, ← ih]
    cases said : said? choice with
    | none => rw [List.filterMap_cons_none said, h.miss arguments base said]
    | some item =>
      rw [List.filterMap_cons_some said, List.foldlM_cons, h.hit arguments base said]
      rfl

theorem Speaks.value [DecidableEq field] (h : Speaks said? assign part)
    (governs : Governs assign f shown fun value seen => seen = value)
    (distinct : (choices.map Choice.switch).Nodup) (base : Config) :
    shown (part ((choices.foldl Choice.apply .blank).override base)) =
      ((choices.filterMap said?).lookup f).getD (shown (part base)) := by
  have last := governs.foldlM (h.foldlM choices .blank base)
  rw [lookup_reverse (h.nodup distinct), override_blank] at last
  cases found : (choices.filterMap said?).lookup f <;>
  · simp only [found] at last
    exact last

end Sections

theorem speaks_server : Speaks Choice.server? Config.assignServer (·.server) where
  hit := by
    intro choice f v arguments base said
    cases choice with
    | serverPort port =>
      cases said
      rw [Config.assignServer, Config.readNat_ofNat .unsigned16 port.toNat_lt_size]
      change Except.ok _ = _
      rw [UInt16.ofNat_toNat]
      rfl
    | sendBuffer size | recvBuffer size =>
      cases said
      rw [Config.assignServer, Config.readNat_ofNat .unsigned32 size.toNat_lt_size]
      change Except.ok _ = _
      rw [UInt32.ofNat_toNat]
      rfl
    | password _ | cert _ | privateKey _ | debug =>
      cases said
      rfl
    | config _ | logLevel _ => cases said
  miss := by
    intro choice arguments base said
    cases choice with
    | config _ | logLevel _ => rfl
    | _ => cases said
  alone := by
    intro first second f v w said said'
    cases first <;> cases said <;> cases second <;> cases said' <;> rfl

theorem speaks_logging : Speaks Choice.logging? Config.assignLogging (·.logging) where
  hit := by
    intro choice f v arguments base said
    cases choice <;> cases said
    rfl
  miss := by
    intro choice arguments base said
    cases choice with
    | logLevel _ => cases said
    | _ => rfl
  alone := by
    intro first second f v w said said'
    cases first <;> cases said
    cases second <;> cases said'
    rfl

/-- What the options say goes over what the configuration was made of. -/
theorem override_makes (distinct : (choices.map Choice.switch).Nodup)
    (made : document.Makes base) : ((Choice.layer choices).above document).Makes
      ((choices.foldl Choice.apply .blank).override base) where
  server f scalar := by
    have value := speaks_server.value (Config.governs_scalar scalar) distinct base
    rw [made.server f scalar] at value
    rw [value, Layer.above, Option.getD_or]
    rfl
  timeouts f := made.timeouts f
  logging f := by
    have value := speaks_logging.value (Config.governs_text f) distinct base
    rw [made.logging f] at value
    rw [value, Layer.above, Option.getD_or]
    rfl

theorem mem_of_lookup_debug {v : Value}
    (h : (choices.filterMap Choice.server?).lookup .debug = some v) :
    .debug ∈ choices ∧ v = .boolean true := by
  obtain ⟨front, back, same, -⟩ := List.lookup_eq_some_iff.mp h
  have inside : (.debug, v) ∈ choices.filterMap Choice.server? := by simp [same]
  obtain ⟨choice, there, said⟩ := List.mem_filterMap.mp inside
  cases choice <;> cases said
  exact ⟨there, rfl⟩

theorem debug_eq_true_iff (made : ((Choice.layer choices).above document).Makes config) :
    config.server.debug = true ↔
      .debug ∈ choices ∨ document.server .debug = some (.boolean true) := by
  have value : Value.boolean config.server.debug =
      (((choices.filterMap Choice.server?).lookup .debug).or (document.server .debug)).getD
        (.boolean false) := made.server .debug (by decide)
  cases found : (choices.filterMap Choice.server?).lookup .debug with
  | some v =>
    obtain ⟨given, rfl⟩ := mem_of_lookup_debug found
    rw [found] at value
    simp [Value.boolean.inj value, given]
  | none =>
    have missing : .debug ∉ choices := by
      intro given
      have inside : (.debug, .boolean true) ∈ choices.filterMap Choice.server? :=
        List.mem_filterMap.mpr ⟨.debug, given, rfl⟩
      simpa using List.lookup_eq_none_iff.mp found _ inside
    rw [found, Option.none_or] at value
    cases said : document.server .debug with
    | none =>
      rw [said] at value
      simp [missing, Value.boolean.inj value]
    | some v =>
      rw [said] at value
      obtain rfl : Value.boolean config.server.debug = v := value
      simp [missing]

/-! ## The document beneath the options -/

/-- What the file says that the options name: nothing if they name none, and otherwise what its
content says, if that can be loaded. -/
inductive Beneath (files : FileSystem) (choices : List Choice) : Layer → Prop where
  | unnamed (none : ∀ path, .config path ∉ choices) : Beneath files choices .blank
  | named {path : String} {bytes : List UInt8} {config : Config} (named : .config path ∈ choices)
      (stored : files.readFile path = .ok bytes)
      (loaded : Config.load (.ok bytes) = .ok config) : Beneath files choices (.ofContent bytes)

theorem config_of_notMem (none : ∀ path, .config path ∉ choices) :
    (choices.foldl Choice.apply arguments).config = arguments.config := by
  induction choices generalizing arguments with
  | nil => rfl
  | cons choice choices ih =>
    rw [List.foldl_cons, ih fun path inside => none path (List.mem_cons_of_mem _ inside)]
    cases choice with
    | config path => exact absurd List.mem_cons_self (none path)
    | _ => rfl

theorem config_of_mem {path : String} (distinct : (choices.map Choice.switch).Nodup)
    (named : .config path ∈ choices) :
    (choices.foldl Choice.apply arguments).config = some path := by
  induction choices generalizing arguments with
  | nil => cases named
  | cons choice choices ih =>
    obtain ⟨new, distinct⟩ := List.nodup_cons.mp distinct
    rw [List.foldl_cons]
    rcases List.mem_cons.mp named with rfl | later
    · refine (config_of_notMem fun other inside => ?_).trans rfl
      exact new (List.mem_map.mpr ⟨_, inside, rfl⟩)
    · exact ih distinct later

theorem generateConfig_eq (choices : List Choice) (arguments : Arguments) :
    (choices.foldl Choice.apply arguments).generateConfig = arguments.generateConfig := by
  induction choices generalizing arguments with
  | nil => rfl
  | cons choice choices ih =>
    rw [List.foldl_cons, ih]
    cases choice <;> rfl

theorem Beneath.exists_base {files : FileSystem} (h : Beneath files choices document)
    (distinct : (choices.map Choice.switch).Nodup) :
    ∃ base, (choices.foldl Choice.apply .blank).baseConfig files = .ok base ∧
      document.Makes base := by
  cases h with
  | unnamed none =>
    refine ⟨.standard, ?_, Layer.makes_standard⟩
    rw [Arguments.baseConfig, config_of_notMem none]
    rfl
  | @named path bytes config named stored loaded =>
    refine ⟨config, ?_, Layer.ofContent_makes loaded⟩
    rw [Arguments.baseConfig, config_of_mem distinct named]
    simp only [stored, loaded]

/-! ## Starting -/

/-- What a start needs: a configuration that is fit, credentials, and an address to listen on. -/
structure CanStart (surroundings : Surroundings) (config : Config) : Prop where
  logging : ∃ logging, loggingOf config.logging = .ok logging
  valid : config.server.Valid
  credentials : ∃ identity,
    (Tls.Identity.load surroundings.files config.server.cert config.server.privateKey).result =
      .ok identity
  address : ∃ address,
    resolveListen surroundings.machine config.server.listenAddress = .ok address ∧
      surroundings.machine.bind address.socket = .ok ()

variable {surroundings : Surroundings}

theorem exists_listen_iff {machine : Machine} {server : ServerConfig} (valid : server.Valid)
    (identity : Tls.Identity) : (∃ listening, listen machine server identity = .ok listening) ↔
      ∃ address, resolveListen machine server.listenAddress = .ok address ∧
        machine.bind address.socket = .ok () := by
  obtain ⟨made, same⟩ := valid.exists_server machine
  rw [listen, same]
  cases resolved : resolveListen machine server.listenAddress with
  | error cause => simp [Except.mapError, bind, Except.bind]
  | ok address =>
    cases bound : machine.bind address.socket <;>
      simp [bound, Except.mapError, bind, Except.bind, pure, Except.pure]

theorem exists_startServer_iff {server : ServerConfig} :
    (∃ listening, (startServer surroundings server).result = .ok listening) ↔
      server.Valid ∧
      (∃ identity, (Tls.Identity.load surroundings.files server.cert server.privateKey).result =
        .ok identity) ∧
      ∃ address, resolveListen surroundings.machine server.listenAddress = .ok address ∧
        surroundings.machine.bind address.socket = .ok () := by
  rw [startServer, ← ServerConfig.validate_eq_ok_iff_valid]
  cases checked : server.validate with
  | error fault => simp
  | ok _ =>
    have valid := ServerConfig.validate_eq_ok_iff_valid.mp checked
    cases loaded : (Tls.Identity.load surroundings.files server.cert server.privateKey).result with
    | error cause => simp [loaded]
    | ok identity =>
      simp only [← exists_listen_iff valid identity, loaded]
      cases listen surroundings.machine server identity <;> simp

theorem serve_code_eq_zero_iff
    (effective : arguments.effectiveConfig surroundings.files = .ok config) :
    (serve surroundings arguments).code = 0 ↔ CanStart surroundings config := by
  rw [serve, effective]
  have parts : CanStart surroundings config ↔
      (∃ logging, loggingOf config.logging = .ok logging) ∧
        ∃ listening, (startServer surroundings config.server).result = .ok listening := by
    rw [exists_startServer_iff]
    exact ⟨fun h => ⟨h.logging, h.valid, h.credentials, h.address⟩,
      fun ⟨logging, valid, credentials, address⟩ => ⟨logging, valid, credentials, address⟩⟩
  rw [parts]
  cases set : loggingOf config.logging with
  | error error => simp [set, failed]
  | ok logging =>
    cases result : (startServer surroundings config.server).result <;> simp [set, result, failed]

theorem serve_of_invalid {fault : ConfigFault}
    (effective : arguments.effectiveConfig surroundings.files = .ok config)
    (logging : ∃ logging, loggingOf config.logging = .ok logging)
    (invalid : config.server.validate = .error fault) :
    serve surroundings arguments = failed [] (.configuration fault) := by
  obtain ⟨logging, set⟩ := logging
  simp [serve, effective, set, startServer, invalid]

/-- Distinct options, in whatever order and way they are written, over a document that can be loaded
or none. The configuration that the program runs with has for each field the value of the option, or
else that of the document, or else the standard value; what no option is for is that of the document
or the standard value. The program starts exactly if this configuration is fit. -/
theorem option_over_document_over_standard
    (each : List.Forall₂ Written choices written) (distinct : (choices.map Choice.switch).Nodup)
    (beneath : Beneath surroundings.files choices document) :
    ∃ arguments config, Arguments.read written.flatten = .ok arguments ∧
      arguments.effectiveConfig surroundings.files = .ok config ∧
      ((Choice.layer choices).above document).Makes config ∧
      (config.server.debug = true ↔
        .debug ∈ choices ∨ document.server .debug = some (.boolean true)) ∧
      (∀ f ∈ [.bind, .relayBufferSize, .rejectLoopback], config.server.value f =
        (document.server f).getD (ServerConfig.standard.value f)) ∧
      (∀ f, config.server.timeouts.value f =
        (document.timeouts f).getD (TimeoutConfig.standard.value f)) ∧
      config.logging.value .format =
        (document.logging .format).getD (LoggingConfig.standard.value .format) ∧
      ((run surroundings written.flatten).code = 0 ↔ CanStart surroundings config) ∧
      ∀ fault, (∃ logging, loggingOf config.logging = .ok logging) →
        config.server.validate = .error fault →
        run surroundings written.flatten = failed [] (.configuration fault) := by
  obtain ⟨base, loaded, base_made⟩ := beneath.exists_base distinct
  have read := read_of_written each distinct
  have made := override_makes distinct base_made
  have effective : (choices.foldl Choice.apply .blank).effectiveConfig surroundings.files =
      .ok ((choices.foldl Choice.apply .blank).override base) := by
    rw [Arguments.effectiveConfig, loaded]
    rfl
  have served : run surroundings written.flatten =
      serve surroundings (choices.foldl Choice.apply .blank) := by
    have plain : (choices.foldl Choice.apply .blank).generateConfig = false :=
      generateConfig_eq choices .blank
    simp [run, read, plain]
  refine ⟨_, _, read, effective, made, debug_eq_true_iff made, ?_, made.timeouts, ?_, ?_, ?_⟩
  · intro f other
    have scalar : f ≠ .timeouts := by
      rintro rfl
      simp at other
    simp only [List.mem_cons, List.not_mem_nil, or_false] at other
    rcases other with rfl | rfl | rfl <;> exact base_made.server _ scalar
  · exact base_made.logging .format
  · rw [served]
    exact serve_code_eq_zero_iff effective
  · intro fault logging invalid
    rw [served]
    exact serve_of_invalid effective logging invalid

/-- Surroundings in which every file holds the same text. -/
def Surroundings.holding (text : String) : Surroundings :=
  ⟨⟨fun _ => .ok (.file (Utf8.encode text))⟩, .isolated⟩

theorem option_over_document_over_standard_onSample : ∃ text, Config.sample.write = .ok text ∧
    run (.holding text) ["-p0", "--config", "server.toml"] =
      failed [] (.configuration .portMissing) := by
  have writable : ∃ text, Config.sample.write = .ok text := Config.exists_write_iff.mpr (by decide)
  obtain ⟨text, written⟩ := writable
  refine ⟨text, written, ?_⟩
  have port : Written (.serverPort 0) ["-p0"] := by
    have joined : "-p0" = String.ofList ('-' :: 'p' :: "0".toList) := by decide
    rw [joined]
    exact .letterJoined rfl (.plain (.digit rfl)) (by decide) (by decide)
  have named : Written (.config "server.toml") ["--config", "server.toml"] := by
    have apart : "--config" = "--" ++ Switch.config.longName := by decide
    rw [apart]
    refine .apart ⟨rfl, by decide⟩ fun c rest text => ?_
    have first := congrArg List.head? text
    exact absurd first (by simp)
  have inside : Choice.config "server.toml" ∈ [.serverPort 0, .config "server.toml"] := by simp
  have beneath : Beneath (Surroundings.holding text).files
      [.serverPort 0, .config "server.toml"] (.ofContent (Utf8.encode text)) :=
    .named inside rfl (Config.load_write written)
  have content : Layer.ofContent (Utf8.encode text) = .ofEntries Config.sample.entries := by
    simp only [Layer.ofContent, Utf8.decode?_encode, Option.bind_some, Config.read?_write written]
  rw [content] at beneath
  obtain ⟨arguments, config, -, -, made, -, -, -, -, -, refused⟩ :=
    option_over_document_over_standard (.cons port (.cons named .nil)) (by decide) beneath
  have password : config.server.password = "change-me" :=
    Value.string.inj (made.server .password (by decide))
  have zero : config.server.port.toNat = 0 :=
    Int.ofNat_inj.mp (Value.integer.inj (made.server .port (by decide)))
  have level : config.logging.level = "info" := Value.string.inj (made.logging .level)
  have format : config.logging.format = "full" := Value.string.inj (made.logging .format)
  have readable : ∃ logging, loggingOf config.logging = .ok logging := by
    rw [loggingOf, level, format]
    exact ⟨_, rfl⟩
  refine refused .portMissing readable ?_
  have none : config.server.port = 0 := UInt16.toNat_inj.mp zero
  rw [ServerConfig.validate, password, none]
  rfl

end TunnelServer.CommandLine
