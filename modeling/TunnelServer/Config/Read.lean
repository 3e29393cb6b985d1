import TunnelServer.Config.Field
import TunnelServer.Decimal.Shortest
import TunnelServer.Io.Error
import TunnelServer.Text.Quoted
import TunnelServer.Text.Utf8
import TunnelServer.Toml.Document

/-! # Reading a configuration

A configuration is read from a document. Whatever the document leaves out has its standard value,
and keys that mean nothing are passed over. A section may also be an array, whose items are taken
for the fields in their order; items beyond the last field are passed over too. The first value, in
the order of the document, that does not fit its field is reported.
-/

namespace TunnelServer

inductive Expected where
  | string
  | path
  | boolean
  | unsigned16
  | unsigned32
  | unsigned64
  | size
  | serverSection
  | timeoutSection
  | loggingSection
deriving DecidableEq, Repr

def Expected.text : Expected → String
  | .string => "a string"
  | .path => "path string"
  | .boolean => "a boolean"
  | .unsigned16 => "u16"
  | .unsigned32 => "u32"
  | .unsigned64 => "u64"
  | .size => "usize"
  | .serverSection => "struct ServerConfig"
  | .timeoutSection => "struct TimeoutConfig"
  | .loggingSection => "struct LoggingConfig"

/-- Why a value does not fit its field. -/
inductive MisfitValue where
  | kind (found : Toml.Value) (expected : Expected)
  | range (found : Int) (expected : Expected)

/-- The words for the kind of a value, with the value where it is short. -/
def Toml.Value.describe : Toml.Value → String
  | .string text => "string " ++ Text.quote text
  | .integer value => "integer `" ++ toString value ++ "`"
  | .float value => "floating point `" ++ value.render ++ "`"
  | .boolean value => "boolean `" ++ toString value ++ "`"
  | .dateTime => "map"
  | .array _ => "sequence"
  | .table .. => "map"
  | .tables _ => "sequence"

def MisfitValue.message : MisfitValue → String
  | .kind found expected =>
    "invalid type: " ++ found.describe ++ ", expected " ++ expected.text
  | .range found expected =>
    "invalid value: integer `" ++ toString found ++ "`, expected " ++ expected.text

/-- Why no configuration could be read. -/
inductive LoadError where
  | unreadable (cause : IoError)
  /-- The text is no document. -/
  | malformed
  | misfit (value : MisfitValue)

/-- What is wrong with the text of a configuration, or with its file. -/
def LoadError.detail : LoadError → String
  | .unreadable cause => "Failed to read config: " ++ cause.message
  | .malformed => "Failed to parse config: syntax"
  | .misfit value => "Failed to parse config: " ++ value.message

/-- The text shown for a failure, after the part of the program that it belongs to. -/
def LoadError.message (error : LoadError) : String := "Configuration error: " ++ error.detail

namespace Config

abbrev Fit := Except MisfitValue

def readString (expected : Expected) : Toml.Value → Fit String
  | .string text => .ok text
  | value => .error (.kind value expected)

def readBool : Toml.Value → Fit Bool
  | .boolean value => .ok value
  | value => .error (.kind value .boolean)

def readNat (expected : Expected) (bound : Nat) : Toml.Value → Fit Nat
  | .integer value =>
    if 0 ≤ value ∧ value < bound then .ok value.toNat else .error (.range value expected)
  | value => .error (.kind value expected)

/-- Takes the entries of a table for the fields that have their names. -/
def readEntries {field settings : Type} (fields : List field) (name : field → String)
    (assign : settings → field → Toml.Value → Fit settings) (start : settings)
    (entries : Toml.Entries) : Fit settings :=
  entries.foldlM (fun current entry =>
    match fields.find? (name · = entry.1) with
    | some field => assign current field entry.2
    | none => .ok current) start

/-- Takes the items of an array for the fields in their order. -/
def readItems {field settings : Type} (fields : List field)
    (assign : settings → field → Toml.Value → Fit settings) (start : settings)
    (items : List Toml.Value) : Fit settings :=
  (fields.zip items).foldlM (fun current item => assign current item.1 item.2) start

/-- Reads a section that starts from standard values. A date counts as a table without any name. -/
def readSection {field settings : Type} (expected : Expected) (fields : List field)
    (name : field → String) (assign : settings → field → Toml.Value → Fit settings)
    (start : settings) : Toml.Value → Fit settings
  | .table _ entries => readEntries fields name assign start entries
  | .array items => readItems fields assign start items
  | .tables elements =>
    readItems fields assign start (elements.map (.table .header))
  | .dateTime => .ok start
  | value => .error (.kind value expected)

def assignTimeout (timeouts : TimeoutConfig) (field : TimeoutField) (value : Toml.Value) :
    Fit TimeoutConfig := do
  let limit := UInt64.ofNat (← readNat .unsigned64 UInt64.size value)
  match field with
  | .handshake => return { timeouts with handshake := limit }
  | .transfer => return { timeouts with transfer := limit }
  | .connect => return { timeouts with connect := limit }
  | .peerJoin => return { timeouts with peerJoin := limit }

def readTimeouts (value : Toml.Value) : Fit TimeoutConfig :=
  readSection .timeoutSection TimeoutField.all TimeoutField.name assignTimeout .standard value

def assignServer (server : ServerConfig) (field : ServerField) (value : Toml.Value) :
    Fit ServerConfig :=
  match field with
  | .password => do return { server with password := ← readString .string value }
  | .port => do
    return { server with port := UInt16.ofNat (← readNat .unsigned16 UInt16.size value) }
  | .bind => do return { server with bind := ← readString .string value }
  | .cert => do return { server with cert := ← readString .path value }
  | .privateKey => do return { server with privateKey := ← readString .path value }
  | .debug => do return { server with debug := ← readBool value }
  | .sendBufferSize => do
    return { server with sendBufferSize := UInt32.ofNat (← readNat .unsigned32 UInt32.size value) }
  | .recvBufferSize => do
    return { server with recvBufferSize := UInt32.ofNat (← readNat .unsigned32 UInt32.size value) }
  | .relayBufferSize => do
    return { server with relayBufferSize := UInt64.ofNat (← readNat .size UInt64.size value) }
  | .rejectLoopback => do return { server with rejectLoopback := ← readBool value }
  | .timeouts => do return { server with timeouts := ← readTimeouts value }

def assignLogging (logging : LoggingConfig) (field : LoggingField) (value : Toml.Value) :
    Fit LoggingConfig :=
  match field with
  | .level => do return { logging with level := ← readString .string value }
  | .format => do return { logging with format := ← readString .string value }

def readServer (value : Toml.Value) : Fit ServerConfig :=
  readSection .serverSection ServerField.all ServerField.name assignServer .standard value

def readLogging (value : Toml.Value) : Fit LoggingConfig :=
  readSection .loggingSection LoggingField.all LoggingField.name assignLogging .standard value

def assignSection (config : Config) (part : Section) (value : Toml.Value) : Fit Config :=
  match part with
  | .server => do return { config with server := ← readServer value }
  | .logging => do return { config with logging := ← readLogging value }

def ofEntries (entries : Toml.Entries) : Fit Config :=
  readEntries Section.all Section.name assignSection .standard entries

def ofText (text : String) : Except LoadError Config :=
  match Toml.read? text with
  | none => .error .malformed
  | some entries => (ofEntries entries).mapError .misfit

def ofBytes (bytes : List UInt8) : Except LoadError Config :=
  match Utf8.decode? bytes with
  | none => .error (.unreadable .notText)
  | some text => ofText text

/-- Reads a configuration from a file that could be read, or not. -/
def load : Except IoError (List UInt8) → Except LoadError Config
  | .error cause => .error (.unreadable cause)
  | .ok bytes => ofBytes bytes

end Config

end TunnelServer
