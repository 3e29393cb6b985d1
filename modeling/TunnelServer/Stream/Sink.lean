import TunnelServer.Stream.Source

/-! # Scripted sinks

A sink accepts bytes according to a plan: it may fail, accept nothing, stall now and then, or accept
little at a time, and it answers each flush and the shutdown in a way of its own. What it has
accepted, when, how often it was flushed and when it was shut down is part of its state, and so is
every call that was made of it, answered or not.
-/

namespace TunnelServer

/-- How a sink reacts to being flushed or shut down. There is no answer before `due`. -/
inductive Completion where
  | succeeds (due : Nat := 0)
  /-- There is never an answer. -/
  | hangs
  | fails (kind : IoErrorKind) (due : Nat := 0)
deriving DecidableEq, Repr

namespace Completion

/-- When the answer is there, if ever. -/
def due? : Completion → Option Nat
  | succeeds due | fails _ due => some due
  | hangs => none

/-- What has become of a flush or a shutdown by some time. -/
inductive Reply where
  | done
  | fault (kind : IoErrorKind)
  /-- Nothing can be said before `release`. -/
  | pending (release : Option Nat)
deriving DecidableEq, Repr

def reply (now : Nat) : Completion → Reply
  | hangs => .pending none
  | succeeds due => if now < due then .pending (some due) else .done
  | fails kind due => if now < due then .pending (some due) else .fault kind

@[simp] theorem reply_succeeds (now : Nat) : succeeds.reply now = .done := by
  simp [reply]

theorem reply_of_pending {completion : Completion} {now : Nat} {release : Option Nat}
    (h : completion.reply now = .pending release) :
    completion.due? = release ∧ ∀ time ∈ release, now < time := by
  cases completion with
  | hangs =>
    cases h
    exact ⟨rfl, by simp⟩
  | succeeds due | fails kind due =>
    simp only [reply] at h
    split at h
    case isTrue early =>
      cases h
      exact ⟨rfl, by simpa using early⟩
    case isFalse => cases h

/-- The answer as it is seen by someone who stops looking after `horizon`. -/
def visibleUntil (horizon : Nat) (completion : Completion) : Completion :=
  if completion.due?.any (· ≤ horizon) then completion else hangs

end Completion

/-- What a sink answers to one call after another: first these answers, then always the same. -/
structure Answers where
  first : List Completion
  others : Completion
deriving DecidableEq, Repr

namespace Answers

def nth (answers : Answers) (count : Nat) : Completion := answers.first.getD count answers.others

def visibleUntil (horizon : Nat) (answers : Answers) : Answers :=
  ⟨answers.first.map (·.visibleUntil horizon), answers.others.visibleUntil horizon⟩

/-- A sink that always answers in the same way. -/
instance : Coe Completion Answers := ⟨fun completion => ⟨[], completion⟩⟩

end Answers

/-- A fault once a number of bytes has been accepted. -/
structure SinkFault where
  after : Nat
  kind : IoErrorKind
deriving DecidableEq, Repr

/-- A wait once a number of bytes has been accepted, for ever if no time is given. -/
structure SinkStall where
  after : Nat
  release : Option Nat
deriving DecidableEq, Repr

/-- A sink that stalls at most once. -/
instance : Coe (Option SinkStall) (List SinkStall) := ⟨Option.toList⟩

/-- How a sink behaves. The restrictions on a write are checked in the order of the fields. -/
structure SinkPlan where
  fault : Option SinkFault
  /-- From this many bytes on nothing more is accepted. -/
  capacity : Option Nat
  stalls : List SinkStall
  /-- The most that one write can hand over. -/
  portion : Option Nat
  flush : Answers
  /-- A sink is shut down only once. -/
  shutdown : Completion
deriving DecidableEq, Repr

def SinkPlan.unrestricted : SinkPlan := ⟨none, none, [], none, Completion.succeeds, .succeeds⟩

/-- The plan as it is seen by someone who stops looking after `horizon`. -/
def SinkPlan.visibleUntil (horizon : Nat) (plan : SinkPlan) : SinkPlan :=
  { plan with
    stalls := plan.stalls.map fun stall =>
      { stall with release := stall.release.filter (· ≤ horizon) }
    flush := plan.flush.visibleUntil horizon
    shutdown := plan.shutdown.visibleUntil horizon }

/-- Bytes accepted by one write, and when. -/
structure Written where
  time : Nat
  bytes : List UInt8
deriving DecidableEq, Repr

/-- What can be asked of a sink. -/
inductive SinkRequest where
  | write
  | flush
  | shutdown
deriving DecidableEq, Repr

structure SinkCall where
  request : SinkRequest
  /-- What the caller had taken from its source by then, the newest chunk first. -/
  heard : List Chunk
deriving DecidableEq, Repr

/-- A sink and what has happened to it, the newest write and the newest call first. -/
structure Sink where
  plan : SinkPlan
  writes : List Written
  total : Nat
  flushes : Nat
  shutdownAt : Option Nat
  calls : List SinkCall
deriving DecidableEq, Repr

namespace Sink

def ofPlan (plan : SinkPlan) : Sink := ⟨plan, [], 0, 0, none, []⟩

def accepted (sink : Sink) : List UInt8 := (sink.writes.map Written.bytes).reverse.flatten

/-- The answer to one attempt to write. -/
inductive Offer where
  /-- So many bytes are accepted, perhaps none. -/
  | accepts (count : Nat)
  | fault (kind : IoErrorKind)
  /-- Nothing can be said before `release`. -/
  | pending (release : Option Nat)
deriving DecidableEq, Repr

/-- What is left of an offer once a bound on the total is reached at `limit`. -/
def roomBelow (limit total length : Nat) : Nat := min length (limit - total)

/-- The last restriction: the largest portion of one write. -/
def offerPortion (plan : SinkPlan) (length : Nat) : Offer :=
  .accepts (match plan.portion with | some most => min length most | none => length)

/-- When the stalls that are reached with so many bytes are over, if ever. -/
def releaseAt (stalls : List SinkStall) (total : Nat) : Option Nat :=
  stalls.foldr (fun stall rest =>
    if total < stall.after then rest
    else stall.release.bind fun time => rest.map (max time)) (some 0)

/-- What is left of an offer up to the next stall. -/
def roomBeforeStalls (stalls : List SinkStall) (total length : Nat) : Nat :=
  stalls.foldr (fun stall length =>
    if total < stall.after then roomBelow stall.after total length else length) length

/-- The restriction by the stalls, and those after it. -/
def offerStalls (plan : SinkPlan) (total : Nat) (now : Nat) (length : Nat) : Offer :=
  match releaseAt plan.stalls total with
  | none => .pending none
  | some time =>
    if now < time then .pending (some time)
    else offerPortion plan (roomBeforeStalls plan.stalls total length)

/-- The restriction by the capacity, and those after it. -/
def offerCapacity (plan : SinkPlan) (total : Nat) (now : Nat) (length : Nat) : Offer :=
  match plan.capacity with
  | none => offerStalls plan total now length
  | some limit =>
    if limit ≤ total then .accepts 0
    else offerStalls plan total now (roomBelow limit total length)

/-- What happens to a write of so many bytes at a given time. -/
def offer (sink : Sink) (now : Nat) (length : Nat) : Offer :=
  match sink.plan.fault with
  | none => offerCapacity sink.plan sink.total now length
  | some fault =>
    if fault.after ≤ sink.total then .fault fault.kind
    else offerCapacity sink.plan sink.total now (roomBelow fault.after sink.total length)

theorem lt_of_offerStalls_pending {plan : SinkPlan} {total length : Nat} {now release : Nat}
    (h : offerStalls plan total now length = .pending (some release)) : now < release := by
  simp only [offerStalls, offerPortion] at h
  split at h
  · cases h
  · split at h
    · cases h
      assumption
    · cases h

theorem lt_of_offerCapacity_pending {plan : SinkPlan} {total length : Nat} {now release : Nat}
    (h : offerCapacity plan total now length = .pending (some release)) : now < release := by
  simp only [offerCapacity] at h
  split at h
  · exact lt_of_offerStalls_pending h
  · split at h
    · cases h
    · exact lt_of_offerStalls_pending h

theorem lt_of_offer_pending {sink : Sink} {now release : Nat} {length : Nat}
    (h : sink.offer now length = .pending (some release)) : now < release := by
  simp only [offer] at h
  split at h
  · exact lt_of_offerCapacity_pending h
  · split at h
    · cases h
    · exact lt_of_offerCapacity_pending h

/-- Records a call by someone who had taken these chunks from its source. -/
def call (sink : Sink) (request : SinkRequest) (heard : List Chunk) : Sink :=
  { sink with calls := ⟨request, heard⟩ :: sink.calls }

@[simp] theorem offer_call (sink : Sink) (request : SinkRequest) (heard : List Chunk)
    (now length : Nat) : (sink.call request heard).offer now length = sink.offer now length := rfl

def timesAsked (sink : Sink) (request : SinkRequest) : Nat :=
  sink.calls.countP (·.request = request)

@[simp] theorem timesAsked_call (sink : Sink) (request other : SinkRequest)
    (heard : List Chunk) : (sink.call other heard).timesAsked request =
      sink.timesAsked request + if other = request then 1 else 0 := by
  simp [timesAsked, call, List.countP_cons]

def accept (sink : Sink) (now : Nat) (bytes : List UInt8) : Sink :=
  { sink with writes := ⟨now, bytes⟩ :: sink.writes, total := sink.total + bytes.length }

/-- What has become of the flush that is under way, by some time. -/
def flushReply (sink : Sink) (now : Nat) : Completion.Reply :=
  (sink.plan.flush.nth sink.flushes).reply now

def shutdownReply (sink : Sink) (now : Nat) : Completion.Reply := sink.plan.shutdown.reply now

def markFlush (sink : Sink) : Sink := { sink with flushes := sink.flushes + 1 }

/-- Records the first time at which the sink was shut down. -/
def markShutdown (sink : Sink) (now : Nat) : Sink :=
  { sink with shutdownAt := some (sink.shutdownAt.getD now) }

@[simp] theorem accepted_ofPlan (plan : SinkPlan) : (ofPlan plan).accepted = [] := rfl

@[simp] theorem accepted_accept (sink : Sink) (now : Nat) (bytes : List UInt8) :
    (sink.accept now bytes).accepted = sink.accepted ++ bytes := by
  simp [accept, accepted]

@[simp] theorem timesAsked_ofPlan (plan : SinkPlan) (request : SinkRequest) :
    (ofPlan plan).timesAsked request = 0 := rfl

@[simp] theorem timesAsked_accept (sink : Sink) (now : Nat) (bytes : List UInt8)
    (request : SinkRequest) :
    (sink.accept now bytes).timesAsked request = sink.timesAsked request := rfl

@[simp] theorem timesAsked_markFlush (sink : Sink) (request : SinkRequest) :
    sink.markFlush.timesAsked request = sink.timesAsked request := rfl

@[simp] theorem timesAsked_markShutdown (sink : Sink) (now : Nat) (request : SinkRequest) :
    (sink.markShutdown now).timesAsked request = sink.timesAsked request := rfl

end Sink

end TunnelServer
