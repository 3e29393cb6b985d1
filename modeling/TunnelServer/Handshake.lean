import TunnelServer.Log
import TunnelServer.Stream.Sink
import TunnelServer.Wire.Field
import TunnelServer.Wire.Request
import TunnelServer.Wire.Status

/-! # The server's side of the handshake

The server skips the greeting, compares the secret, reads the time limit that the client asks for,
sends its status byte, and reads the destination. Every field has a time limit of its own, counted
from the end of the field before. Nothing is sent before the secret and the time limit are known to
be good, so a wrong guess learns nothing.
-/

namespace TunnelServer

inductive Step where
  | hello
  | secret
  | timeout
  | status
  | destination
deriving DecidableEq, Repr

def Step.label : Step → String
  | .hello => "hello"
  | .secret => "authentication"
  | .timeout => "timeout negotiation"
  | .status => "status reply"
  | .destination => "destination request"

inductive HandshakeError where
  | timeout (step : Step)
  | protocol (step : Step) (source : ProtocolError)
  | badSecret
deriving DecidableEq

namespace HandshakeError

def step : HandshakeError → Step
  | timeout step => step
  | protocol step _ => step
  | badSecret => .secret

/-- The fault in the field, if it was one. -/
def source? : HandshakeError → Option ProtocolError
  | protocol _ source => some source
  | _ => none

def message : HandshakeError → String
  | timeout step => "timeout during " ++ step.label
  | protocol step source => "error during " ++ step.label ++ ": " ++ source.message
  | badSecret => "wrong secret"

end HandshakeError

/-- The state of a handshake: the clock, both directions of the stream, and what was logged. -/
structure Conversation where
  now : Nat
  source : Source
  sink : Sink
  log : List LogLine

/-- Why a handshake gave no destination. -/
inductive HandshakeHalt where
  | failed (cause : HandshakeError)
  /-- It waits, without a limit, for something that never comes. -/
  | parked
deriving DecidableEq

def FieldHalt.during (step : Step) : FieldHalt → HandshakeHalt
  | .failed cause => .failed (.protocol step cause)
  | .expired => .failed (.timeout step)
  | .parked => .parked

abbrev Dialogue := ExceptT HandshakeHalt (StateM Conversation)

namespace Handshake

def note (level : Level) (message : String) : Dialogue Unit :=
  modify fun talk => { talk with log := talk.log ++ [⟨level, message⟩] }

/-- Reads a field on behalf of a step, within a limit counted from now. -/
def timed {α : Type} (step : Step) (limit : Option Nat)
    (field : Option Nat → FieldReader α) : Dialogue α := fun talk =>
  let (result, reader) := field (limit.map (talk.now + ·)) ⟨talk.now, talk.source⟩
  (result.mapError (FieldHalt.during step), { talk with now := reader.now, source := reader.source })

def ask (request : SinkRequest) (talk : Conversation) : Conversation :=
  { talk with sink := talk.sink.call request talk.source.chunks }

/-- The time at which a write of one byte is answered, if it ever is. -/
def readyTime (talk : Conversation) : Option Nat :=
  match talk.sink.offer talk.now 1 with
  | .pending release => release
  | _ => some talk.now

/-- Writes one byte and flushes it, without a time limit. -/
def sendByte (step : Step) (byte : UInt8) : Dialogue Unit := fun talk =>
  let failed (kind : IoErrorKind) : Except HandshakeHalt Unit :=
    .error (.failed (.protocol step (.io (.ofKind kind))))
  let talk := ask .write talk
  match readyTime talk with
  | none => (.error .parked, talk)
  | some time =>
    let talk := { talk with now := time }
    match talk.sink.offer time 1 with
    | .pending _ => (.error .parked, talk)
    | .fault kind => (failed kind, talk)
    | .accepts 0 => (failed .writeZero, talk)
    | .accepts (_ + 1) =>
      let talk := ask .flush { talk with sink := talk.sink.accept time [byte] }
      match talk.sink.plan.flush.nth talk.sink.flushes with
      | .fails kind due => (failed kind, { talk with now := max time due })
      | .hangs => (.error .parked, talk)
      | .succeeds due => (.ok (), { talk with now := max time due, sink := talk.sink.markFlush })

def checkSecret (secret : Secret) (candidate : List UInt8) : Dialogue Unit :=
  if secret.admits candidate then return () else throw (.failed .badSecret)

/-- The limit for the destination that a client asked for: none if it asked for zero. -/
def requestedLimit (milliseconds : Int32) : Dialogue (Option Nat) :=
  if milliseconds.toInt < 0 then
    throw (.failed (.protocol .timeout (.negativeTimeout milliseconds)))
  else if milliseconds.toInt = 0 then return none
  else return some milliseconds.toInt.toNat

def greet (readTimeout : Nat) : Dialogue Unit := do
  let length ← timed .hello (some readTimeout) Wire.skipString
  note .debug ("Client hello: " ++ toString length ++ " bytes")

def demandSecret (secret : Secret) (readTimeout : Nat) : Dialogue Unit := do
  let candidate ← timed .secret (some readTimeout) Wire.readSecret
  checkSecret secret candidate

def learnLimit (readTimeout : Nat) : Dialogue (Option Nat) := do
  let requested ← timed .timeout (some readTimeout) Wire.readI32
  requestedLimit requested

/-- The handshake before the status byte, in which nothing is sent. Gives the limit for the
destination. -/
def identify (secret : Secret) (readTimeout : Nat) : Dialogue (Option Nat) := do
  greet readTimeout
  demandSecret secret readTimeout
  learnLimit readTimeout

def learnDestination (pooling : Option Nat) : Dialogue Destination := do
  let host ← timed .destination pooling Wire.readString
  let port ← timed .destination pooling Wire.readU16
  return ⟨host, port⟩

def run (secret : Secret) (readTimeout : Nat) : Dialogue Destination := do
  let pooling ← identify secret readTimeout
  sendByte .status Status.ok.code
  learnDestination pooling

end Handshake

/-- Authenticates the client at the other end of a conversation and learns where it wants to go.
Reads up to the status byte have the limit `readTimeout` each, the two fields of the destination
the limit that the client asked for. -/
def authenticate (secret : Secret) (readTimeout : Nat) (talk : Conversation) :
    Except HandshakeHalt Destination × Conversation :=
  Handshake.run secret readTimeout talk

end TunnelServer
