import TunnelServer.Address.Listen
import TunnelServer.CommandLine.Override
import TunnelServer.Config.Write
import TunnelServer.Log.Filter
import TunnelServer.Server.Basic
import TunnelServer.Tls.Identity

/-! # Starting the program

From the command line to a server that listens. Each stage can fail with a report that names the
stage and the causes; what was logged before stays on the output.
-/

namespace TunnelServer.CommandLine

def programName : String := "smartproxy-server"

def version : String := "0.1.0"

def summary : String := "Smartproxy Server - authenticated TLS tunneling"

/-- Why the program does not start. -/
inductive StartError where
  | loading (cause : LoadError)
  | logLevel (text : String) (cause : Log.FilterFault)
  | logFormat (text : String)
  | configuration (cause : ConfigFault)
  | credentials (cause : Tls.SetupError)
  | listenAddress (text : String) (cause : IoError)
  | binding (cause : IoError)
  | server (cause : ConfigFault)

namespace StartError

def title : StartError → String
  | loading _ => "Failed to load configuration"
  | logLevel text _ => "Invalid log level: " ++ text
  | logFormat text => "Unknown log format: " ++ text
  | configuration _ => "Invalid configuration"
  | credentials _ => "Failed to set up TLS"
  | listenAddress text _ => "Failed to resolve listen address " ++ text
  | binding _ => "Failed to bind to address"
  | server _ => "Failed to create server"

def faultCauses (fault : ConfigFault) : List String :=
  match fault with
  | .unfitSecret source => [fault.message, source.message]
  | _ => [fault.message]

def causes : StartError → List String
  | loading cause => [cause.message]
  | logLevel _ cause => cause.causes
  | logFormat _ => []
  | configuration cause => faultCauses cause
  | credentials cause => [cause.message]
  | listenAddress _ cause => [cause.message]
  | binding cause => [cause.message]
  | server cause => faultCauses cause

def indent (first rest text : String) : String :=
  first ++ ("\n" ++ rest).intercalate (text.splitOn "\n") ++ "\n"

/-- The lines for causes that are numbered. -/
def numbered : Nat → List String → String
  | _, [] => ""
  | n, cause :: rest =>
    indent ("    " ++ toString n ++ ": ") "       " cause ++ numbered (n + 1) rest

/-- The report of a failure. Causes are numbered if there are several. -/
def report (error : StartError) : String :=
  let head := "Error: " ++ error.title ++ "\n"
  match error.causes with
  | [] => head
  | [cause] => head ++ "\nCaused by:\n" ++ indent "    " "    " cause
  | causes => head ++ "\nCaused by:\n" ++ numbered 0 causes

end StartError

/-- How log records are laid out. -/
inductive LogFormat where
  | full
  | compact
  /-- With an empty line after each record. -/
  | pretty
deriving DecidableEq, Repr

def LogFormat.ofName? (name : String) : Option LogFormat :=
  if name = "full" then some .full
  else if name = "compact" then some .compact
  else if name = "pretty" then some .pretty
  else none

structure Logging where
  filter : Log.Filter
  format : LogFormat

/-- A log record and where it comes from. -/
structure Record where
  origin : Log.Origin
  line : LogLine

/-- The lines of a record on the output, without the time. -/
def Logging.lines (logging : Logging) (record : Record) : List String :=
  if logging.filter.admits record.origin record.line.level then
    let text := record.line.level.name ++ " " ++ record.origin.target ++ ": " ++
      record.line.message
    text.splitOn "\n" ++ (if logging.format = .pretty then [""] else [])
  else []

/-- Everything that the program depends on. -/
structure Surroundings where
  files : FileSystem
  machine : Machine

structure Listening where
  server : Server
  identity : Tls.Identity
  address : ListenAddress

/-- What becomes of a configuration: the records that were written, and the server. -/
structure Start where
  records : List Record
  result : Except StartError Listening

def loggingOf (config : LoggingConfig) : Except StartError Logging :=
  match Log.Filter.read config.level with
  | .error fault => .error (.logLevel config.level fault)
  | .ok filter =>
    match LogFormat.ofName? config.format with
    | none => .error (.logFormat config.format)
    | some format => .ok ⟨filter, format⟩

def resolveListen (machine : Machine) (text : String) : Except IoError ListenAddress :=
  match ListenAddress.read? text.toList with
  | some address => .ok address
  | none =>
    match SocketAddress.splitPort text.toList with
    | none => .error (.because .invalidInput "invalid socket address")
    | some (host, port) =>
      match SocketAddress.readPort? port with
      | none => .error (.because .invalidInput "invalid port value")
      | some port =>
        (Resolver.systemAnswer machine.directory (String.ofList host)).map (⟨⟨·, port⟩, 0⟩)

def startRecords (listening : Listening) : List Record :=
  let info (text : String) : Record := ⟨.server, .info, text⟩
  let timeouts := listening.server.timeouts
  [info ("Running server v" ++ version),
    info ("Listening on " ++ listening.address.render),
    info ("Timeouts: handshake " ++ Millis.render timeouts.handshake ++ ", transfer " ++
      Millis.render timeouts.transfer ++ ", connect " ++ Millis.render timeouts.connect)] ++
    if listening.server.connector.rejectLoopback then []
    else [⟨.server, .warn, "Loopback destinations are allowed"⟩]

def listen (machine : Machine) (config : ServerConfig) (identity : Tls.Identity) :
    Except StartError Listening := do
  let text := config.listenAddress
  let address ← (resolveListen machine text).mapError (.listenAddress text)
  (machine.bind address.socket).mapError .binding
  let server ← (Server.ofConfig machine config).mapError .server
  return ⟨server, identity, address⟩

def startServer (surroundings : Surroundings) (config : ServerConfig) : Start :=
  match config.validate with
  | .error fault => ⟨[], .error (.configuration fault)⟩
  | .ok () =>
    let loaded := Tls.Identity.load surroundings.files config.cert config.privateKey
    let before : List Record := loaded.log.map fun line => ⟨.tls, line⟩
    match loaded.result with
    | .error cause => ⟨before, .error (.credentials cause)⟩
    | .ok identity =>
      let enabled : Record := ⟨.server, .info, "TLS enabled with cert: " ++ config.cert⟩
      match listen surroundings.machine config identity with
      | .error error => ⟨before ++ [enabled], .error error⟩
      | .ok listening => ⟨before ++ enabled :: startRecords listening, .ok listening⟩

/-- What a run of the program shows. -/
structure Outcome where
  code : Nat
  /-- The lines of the output. -/
  output : List String
  errors : String
deriving DecidableEq, Repr

def failed (output : List String) (error : StartError) : Outcome :=
  ⟨1, output, error.report⟩

def stopRecord : Record := ⟨.server, .info, "Shutting down..."⟩

/-- A run of the program with its arguments. A server that has begun to listen is told to stop. -/
def serve (surroundings : Surroundings) (arguments : Arguments) : Outcome :=
  match arguments.effectiveConfig surroundings.files with
  | .error cause => failed [] (.loading cause)
  | .ok config =>
    match loggingOf config.logging with
    | .error error => failed [] error
    | .ok logging =>
      let start := startServer surroundings config.server
      let output := start.records.flatMap logging.lines
      match start.result with
      | .error error => failed output error
      | .ok _ => ⟨0, output ++ logging.lines stopRecord, ""⟩

def usage : String := "Usage: " ++ programName ++ " [OPTIONS]"

/-- A switch in the overview, filled up to a width. -/
def overviewLine (switch : Switch) : String :=
  let letter := match switch.letter? with
    | some letter => String.ofList ['-', letter, ',', ' ']
    | none => "    "
  let left := "  " ++ letter ++ switch.render
  left ++ String.ofList (List.replicate (39 - left.length) ' ') ++ switch.purpose

def overview : List String :=
  [summary, "", usage, "", "Options:"] ++ Switch.all.map overviewLine

def usageReport (error : UsageError) : String :=
  Terminal.plain ("error: " ++ error.message) ++ "\n\n" ++ usage ++
    "\n\nFor more information, try '--help'.\n"

/-- The lines of a configuration to start from, with an empty line at the end. -/
def sampleLines : List String :=
  match Config.sample.write with
  | .ok text => text.splitOn "\n"
  | .error error => [error.message]

def run (surroundings : Surroundings) (commandLine : List String) : Outcome :=
  match Arguments.read commandLine with
  | .error (.usage error) => ⟨2, [], usageReport error⟩
  | .error .help => ⟨0, overview, ""⟩
  | .error .version => ⟨0, [programName ++ " " ++ version], ""⟩
  | .ok arguments =>
    if arguments.generateConfig then ⟨0, sampleLines, ""⟩
    else serve surroundings arguments

end TunnelServer.CommandLine
