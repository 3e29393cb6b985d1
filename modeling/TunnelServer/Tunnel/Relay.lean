import TunnelServer.Stream.Sink
import TunnelServer.Stream.Source
import TunnelServer.Tunnel.Context

/-! # Relaying one direction

A relay reads its source and writes what it read to its sink, until the source ends, something
fails, the link is dead, or the tunnel starts closing. A read that takes too long does not end it as
long as the other direction wrote within the same time. Then it starts to close the tunnel and,
unless the tunnel is broken, shuts its sink down.

A relay runs in steps. No step uses what the directions share more than once, so the steps of two
relays may be interleaved in any way. A relay that has to wait makes no step until there is
something to do.
-/

namespace TunnelServer

/-- What a relay has to judge before it ends by itself. -/
inductive Cause where
  /-- Nothing was read for too long, and the other direction wrote nothing. -/
  | silence
  | readFault (kind : IoErrorKind)
  | sourceEnded
  | writeFault (kind : IoErrorKind)
deriving DecidableEq, Repr

namespace Cause

def exit : Cause → RelayExit
  | silence => .idle
  | readFault _ | writeFault _ => .fault
  | sourceEnded => .eof

def report (direction : Direction) : Cause → Notice
  | silence => .readTimeout direction
  | readFault kind => .readError direction kind
  | sourceEnded => .endOfStream direction
  | writeFault kind => .writeError direction kind

def breaks : Cause → Bool
  | sourceEnded => false
  | _ => true

end Cause

inductive Phase where
  /-- Looks whether the tunnel is closing, before it reads. -/
  | reading (deadline : Nat)
  | polling (deadline : Nat)
  /-- Waits to read until the deadline; `wake` is when there will be something, if ever. -/
  | awaitingData (deadline : Nat) (wake : Option Nat)
  /-- Asks whether the other direction wrote, since its own read took too long. -/
  | overdue
  /-- Looks whether the tunnel is closing, before it ends by itself. -/
  | judging (cause : Cause)
  | breaking (exit : RelayExit)
  /-- Looks whether the tunnel is closing, before it writes the rest of a chunk, or flushes the sink
  if nothing is left. -/
  | writing (rest : List UInt8)
  /-- Tries to write the rest of a chunk. -/
  | offering (rest : List UInt8)
  /-- Waits to write the rest of a chunk, or for the sink to be flushed; `release` is when it may go
  on, if ever. -/
  | awaitingRoom (rest : List UInt8) (release : Option Nat)
  /-- Flushes the sink after a whole chunk. -/
  | flushing
  /-- Notes that the chunk was written. -/
  | recording
  /-- Starts to close the tunnel. -/
  | leaving (exit : RelayExit)
  /-- Looks whether the tunnel is broken. -/
  | settling (exit : RelayExit)
  | closingSink (exit : RelayExit)
  /-- Waits for its sink to be shut down. -/
  | draining (exit : RelayExit) (deadline : Nat)
  | finished (exit : RelayExit) (time : Nat)
deriving DecidableEq, Repr

structure Relay where
  direction : Direction
  /-- How long a read may take. -/
  timeout : Nat
  /-- How many bytes are read at once. -/
  bufferSize : Nat
  phase : Phase
  source : Source
  sink : Sink
  /-- What was reported, the first report first. -/
  log : List Notice
  /-- When chunks were completed, the last one first. -/
  completed : List Nat
deriving DecidableEq, Repr

namespace Relay

def begin (direction : Direction) (timeout : Nat) (bufferSize : Nat) (source : Source)
    (sink : Sink) (now : Nat) : Relay :=
  ⟨direction, timeout, bufferSize, .reading (now + timeout), source, sink, [], []⟩

def enter (relay : Relay) (phase : Phase) : Relay := { relay with phase }

def report (relay : Relay) (notice : Notice) : Relay :=
  { relay with log := relay.log ++ [notice] }

def ask (relay : Relay) (request : SinkRequest) : Relay :=
  { relay with sink := relay.sink.call request relay.source.chunks }

def exit? (relay : Relay) : Option (RelayExit × Nat) :=
  match relay.phase with
  | .finished exit time => some (exit, time)
  | _ => none

def isDue (now : Nat) (time : Option Nat) : Bool := time.any (· ≤ now)

def poll (now deadline : Nat) (relay : Relay) : Relay :=
  let (answer, source) := relay.source.poll relay.bufferSize now
  let relay := { relay with source }
  match answer with
  | .bytes chunk => relay.enter (.writing chunk)
  | .endOfStream => relay.enter (.judging .sourceEnded)
  | .fault kind => relay.enter (.judging (.readFault kind))
  | .pending wake =>
    if deadline ≤ now then relay.enter .overdue else relay.enter (.awaitingData deadline wake)

def push (now : Nat) (rest : List UInt8) (relay : Relay) : Relay :=
  let relay := relay.ask .write
  match relay.sink.offer now rest.length with
  | .fault kind => relay.enter (.judging (.writeFault kind))
  | .pending release => relay.enter (.awaitingRoom rest release)
  | .accepts 0 => relay.enter (.judging (.writeFault .writeZero))
  | .accepts count =>
    let relay := { relay with sink := relay.sink.accept now (rest.take count) }
    match rest.drop count with
    | [] => relay.enter .flushing
    | left => relay.enter (.offering left)

def flush (now : Nat) (relay : Relay) : Relay :=
  let relay := relay.ask .flush
  match relay.sink.flushReply now with
  | .fault kind => relay.enter (.judging (.writeFault kind))
  | .pending release => relay.enter (.awaitingRoom [] release)
  | .done => { relay with sink := relay.sink.markFlush }.enter .recording

/-- Notes that a chunk was completed, and starts to read the next one. -/
def complete (now : Nat) (debug : Bool) (relay : Relay) : Relay :=
  let relay := { relay with completed := now :: relay.completed }
  let relay :=
    if debug && relay.direction = .destinationToClient then relay.report .bufferSizes else relay
  relay.enter (.reading (now + relay.timeout))

def closeSink (now : Nat) (exit : RelayExit) (relay : Relay) : Relay :=
  let relay := relay.ask .shutdown
  let relay := { relay with sink := relay.sink.markShutdown now }
  match relay.sink.shutdownReply now with
  | .done => relay.enter (.finished exit now)
  | .fault kind =>
    (relay.report (.sinkFailed relay.direction kind)).enter (.finished exit now)
  | .pending _ => relay.enter (.draining exit (now + Millis.closeLimit))

/-- Ends with the answer of the sink that was told to shut down, or at the deadline; none before. -/
def drain? (now : Nat) (exit : RelayExit) (deadline : Nat) (relay : Relay) : Option Relay :=
  match relay.sink.shutdownReply now with
  | .done => some (relay.enter (.finished exit now))
  | .fault kind =>
    some ((relay.report (.sinkFailed relay.direction kind)).enter (.finished exit now))
  | .pending _ =>
    if deadline ≤ now then
      some ((relay.report (.sinkTimedOut relay.direction)).enter (.finished exit now))
    else none

/-- One step, with what the directions share; none if the relay has to wait, or is finished. -/
def step? (now : Nat) (relay : Relay) (context : Context) : Option (Relay × Context) :=
  match relay.phase with
  | .reading deadline =>
    some (relay.enter (if context.closing then .leaving .closed else .polling deadline), context)
  | .polling deadline => some (relay.poll now deadline, context)
  | .awaitingData deadline wake =>
    if context.closing || deadline ≤ now || isDue now wake then
      some (relay.enter (.reading deadline), context)
    else none
  | .overdue =>
    if context.wroteWithin now relay.direction.opposite relay.timeout then
      some (relay.enter (.reading (now + relay.timeout)), context)
    else some (relay.enter (.judging .silence), context)
  | .judging cause =>
    if context.closing then some (relay.enter (.leaving .closed), context)
    else
      let relay := relay.report (cause.report relay.direction)
      let leaving := if cause.breaks then .breaking cause.exit else .leaving cause.exit
      some (relay.enter leaving, context)
  | .breaking exit => some (relay.enter (.leaving exit), context.markBroken)
  | .writing rest =>
    let onwards := if rest = [] then .flushing else .offering rest
    some (relay.enter (if context.closing then .leaving .closed else onwards), context)
  | .offering rest => some (relay.push now rest, context)
  | .awaitingRoom rest release =>
    if context.closing || isDue now release then some (relay.enter (.writing rest), context)
    else none
  | .flushing => some (relay.flush now, context)
  | .recording =>
    some (relay.complete now context.debug, context.recordWrite now relay.direction)
  | .leaving exit =>
    let log := relay.log ++ .finished relay.direction exit :: context.shutdownNotices
    some ({ relay with log }.enter (.settling exit), context.shutdown now)
  | .settling exit =>
    some (relay.enter (if context.broken then .finished exit now else .closingSink exit), context)
  | .closingSink exit => some (relay.closeSink now exit, context)
  | .draining exit deadline => (relay.drain? now exit deadline).map (·, context)
  | .finished .. => none

/-- When a waiting relay has something to do again by itself. -/
def wake? (relay : Relay) : Option Nat :=
  match relay.phase with
  | .awaitingData deadline wake => some (min deadline (wake.getD deadline))
  | .awaitingRoom _ release => release
  | .draining _ deadline => some (min deadline (relay.sink.plan.shutdown.due?.getD deadline))
  | _ => none

end Relay

end TunnelServer
