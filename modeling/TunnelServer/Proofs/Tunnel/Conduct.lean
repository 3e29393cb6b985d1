import TunnelServer.Proofs.Tunnel.Step
import TunnelServer.Tunnel.Interleaving

/-!
# A relay's part in closing a tunnel

While a tunnel is open, a relay that ends by itself reports why and closes the tunnel in the same
run. In a tunnel that is closed already, a relay ends without a report. A relay that has left asks
its sink to shut down once, unless the tunnel is broken.
-/

namespace TunnelServer

/-- How far a tunnel is with closing. -/
structure Closure where
  closing : Bool
  broken : Bool
  closes : List Close
deriving DecidableEq

namespace Closure

def untouched : Closure := ⟨false, false, []⟩

/-- A tunnel that was closed once, when it was broken or not. -/
def once (broken : Bool) : Closure :=
  ⟨true, broken, if broken then [⟨.destination, .abortive⟩, ⟨.client, .abortive⟩]
    else [⟨.destination, .orderly⟩]⟩

end Closure

def Context.closure (context : Context) : Closure :=
  ⟨context.closing, context.broken, context.closes⟩

theorem Context.closure_shutdown {context : Context} {broken : Bool} (now : Nat)
    (hc : context.closure = ⟨false, broken, []⟩) :
    (context.shutdown now).closure = .once broken := by
  have closing : context.closing = false := congrArg Closure.closing hc
  have unbroken : context.broken = broken := congrArg Closure.broken hc
  have closes : context.closes = [] := congrArg Closure.closes hc
  rw [shutdown, if_neg (by rw [closing]; decide)]
  simp only [closure, closeCalls, unbroken, closes, List.nil_append]
  rfl

theorem Context.closure_shutdown_of_closing {context : Context} (now : Nat)
    (h : context.closing = true) : (context.shutdown now).closure = context.closure := by
  rw [shutdown, if_pos h]

theorem Context.closing_shutdown (context : Context) (now : Nat) :
    (context.shutdown now).closing = true := by
  unfold shutdown
  split
  · assumption
  · rfl

theorem Context.broken_shutdown (context : Context) (now : Nat) :
    (context.shutdown now).broken = context.broken := by
  unfold shutdown
  split <;> rfl

def Cause.closing (cause : Cause) : Notice :=
  if cause.breaks then .abortiveClose else .orderlyClose

theorem Cause.isReport_closing (cause : Cause) : cause.closing.isReport = false := by
  unfold closing
  split <;> rfl

theorem Cause.isClose_closing (cause : Cause) : cause.closing.isClose = true := by
  unfold closing
  split <;> rfl

theorem Cause.isReport_report (cause : Cause) (direction : Direction) :
    (cause.report direction).isReport = true := by
  cases cause <;> rfl

theorem Cause.isClose_report (cause : Cause) (direction : Direction) :
    (cause.report direction).isClose = false := by
  cases cause <;> rfl

theorem Cause.exit_ne_closed (cause : Cause) : cause.exit ≠ .closed := by
  cases cause <;> simp [exit]

theorem Cause.breaks_iff (cause : Cause) :
    cause.breaks = true ↔ cause.exit = .idle ∨ cause.exit = .fault := by
  cases cause <;> simp [exit, breaks]

/-- What a relay said of the end of the tunnel, and how often its sink was to shut down. -/
structure Tally where
  reports : List Notice
  closings : List Notice
  shutdowns : Nat
deriving DecidableEq

def Tally.blank : Tally := ⟨[], [], 0⟩

namespace Relay

def tally (relay : Relay) : Tally where
  reports := relay.log.filter Notice.isReport
  closings := relay.log.filter Notice.isClose
  shutdowns := relay.sink.timesAsked .shutdown

variable {now : Nat} {relay after : Relay} {context shared : Context} {broken : Bool}
  {exit : RelayExit} {reports closings : List Notice}

@[simp] theorem tally_enter (relay : Relay) (phase : Phase) :
    (relay.enter phase).tally = relay.tally := rfl

theorem tally_eq (hl : after.log = relay.log)
    (hs : after.sink.timesAsked .shutdown = relay.sink.timesAsked .shutdown) :
    after.tally = relay.tally := by
  simp only [tally, hl, hs]

theorem tally_report {notice : Notice} (hr : notice.isReport = false)
    (hc : notice.isClose = false) : (relay.report notice).tally = relay.tally := by
  simp [tally, report, List.filter_append, hr, hc]

/-- A relay whose end is not decided goes on, ends by itself in an open tunnel, or gives way in one
that is closing. -/
theorem Step.of_undecided (h : Step now relay context after shared)
    (hd : relay.phase.decided? = none) :
    (after.phase.decided? = none ∧ after.tally = relay.tally ∧
      shared.closure = context.closure) ∨
    (∃ cause : Cause, context.closing = false ∧ shared = context ∧
      after = (relay.report (cause.report relay.direction)).enter
        (if cause.breaks then .breaking cause.exit else .leaving cause.exit)) ∨
    (context.closing = true ∧ shared = context ∧ after = relay.enter (.leaving .closed)) := by
  cases h with
  | haltRead _ hc | giveWay _ hc | haltWrite _ hc => exact .inr (.inr ⟨hc, rfl, rfl⟩)
  | @judge cause _ hc => exact .inr (.inl ⟨cause, hc, rfl, rfl⟩)
  | tryRead | take | meetEnd | meetFault | missDeadline | awaitData | resumeRead | retryRead
  | loseHope | tryWrite | tryFlush | resumeWrite => exact .inl ⟨rfl, rfl, rfl⟩
  | refused | stalled | ignored | writePart | writeRest | flushFailed | flushPending | flushed =>
    refine .inl ⟨rfl, tally_eq rfl ?_, rfl⟩
    simp [ask]
  | record =>
    refine .inl ⟨by rw [phase_complete]; rfl, ?_, ?_⟩
    · simp only [tally, log_complete, sink_complete, List.filter_append]
      split <;> simp [Notice.isReport, Notice.isClose]
    · cases hr : relay.direction <;> rfl
  | markBroken hp | leave hp | spareSink hp | turnToSink hp | sinkClosed hp | sinkFailed hp
  | sinkPending hp | sinkDrained hp | drainFailed hp | abandonSink hp =>
    rw [hp] at hd
    cases hd

/-- A relay that has left the tunnel, and what it said. Its sink is asked to shut down unless the
tunnel is broken. -/
inductive Gone (broken : Bool) (exit : RelayExit) (reports closings : List Notice)
    (relay : Relay) : Prop where
  | settling : relay.phase = .settling exit → relay.tally = ⟨reports, closings, 0⟩ →
      Gone broken exit reports closings relay
  | closingSink : relay.phase = .closingSink exit → broken = false →
      relay.tally = ⟨reports, closings, 0⟩ → Gone broken exit reports closings relay
  | draining {deadline} : relay.phase = .draining exit deadline → broken = false →
      relay.tally = ⟨reports, closings, 1⟩ → Gone broken exit reports closings relay
  | finished {time} : relay.phase = .finished exit time →
      relay.tally = ⟨reports, closings, if broken then 0 else 1⟩ →
      Gone broken exit reports closings relay

theorem closeSink_cases (now : Nat) (exit : RelayExit) (relay : Relay) :
    ((relay.closeSink now exit).phase = .finished exit now ∨
      ∃ deadline, (relay.closeSink now exit).phase = .draining exit deadline) ∧
    (relay.closeSink now exit).tally =
      ⟨relay.tally.reports, relay.tally.closings, relay.tally.shutdowns + 1⟩ := by
  simp only [closeSink]
  split
  · exact ⟨.inl rfl, by simp [tally, ask]⟩
  · refine ⟨.inl rfl, ?_⟩
    rw [tally_enter, tally_report rfl rfl]
    simp [tally, ask]
  · exact ⟨.inr ⟨_, rfl⟩, by simp [tally, ask]⟩

theorem drain?_cases {deadline : Nat} (h : relay.drain? now exit deadline = some after) :
    after.phase = .finished exit now ∧ after.sink = relay.sink ∧ after.tally = relay.tally := by
  simp only [drain?] at h
  split at h
  · cases h
    exact ⟨rfl, rfl, rfl⟩
  · cases h
    exact ⟨rfl, rfl, tally_report rfl rfl⟩
  · obtain ⟨-, rfl⟩ := by simpa using h
    exact ⟨rfl, rfl, tally_report rfl rfl⟩

theorem Gone.step (h : relay.Gone broken exit reports closings) (hb : context.broken = broken)
    (hs : relay.step? now context = some (after, shared)) :
    shared = context ∧ after.Gone broken exit reports closings := by
  cases h with
  | settling hp ht =>
    simp only [step?, hp, Option.some.injEq, Prod.mk.injEq, hb] at hs
    obtain ⟨rfl, rfl⟩ := hs
    cases broken with
    | true => exact ⟨rfl, .finished rfl ht⟩
    | false => exact ⟨rfl, .closingSink rfl rfl ht⟩
  | closingSink hp hf ht =>
    simp only [step?, hp, Option.some.injEq, Prod.mk.injEq] at hs
    obtain ⟨rfl, rfl⟩ := hs
    obtain ⟨hq, asked⟩ := closeSink_cases now exit relay
    rw [ht] at asked
    rcases hq with hq | ⟨deadline, hq⟩
    · exact ⟨rfl, .finished hq (by rw [asked, hf]; rfl)⟩
    · exact ⟨rfl, .draining hq hf asked⟩
  | draining hp hf ht =>
    simp only [step?, hp, Option.map_eq_some_iff, Prod.mk.injEq] at hs
    obtain ⟨drained, hd, rfl, rfl⟩ := hs
    obtain ⟨hq, -, same⟩ := drain?_cases hd
    exact ⟨rfl, .finished hq (by rw [same, ht, hf]; rfl)⟩
  | finished hp => simp [step?, hp] at hs

/-- A relay in a tunnel that was closed by another: it goes on, gives way, or has left. -/
inductive Yields (broken : Bool) (relay : Relay) : Prop where
  | working : relay.phase.decided? = none → relay.tally = .blank → Yields broken relay
  | leaving : relay.phase = .leaving .closed → relay.tally = .blank → Yields broken relay
  | gone : relay.Gone broken .closed [] [] → Yields broken relay

theorem leave_of_closing {exit : RelayExit} (hp : relay.phase = .leaving exit)
    (hc : context.closing = true) (hs : relay.step? now context = some (after, shared)) :
    shared = context ∧ after.phase = .settling exit ∧ after.tally = relay.tally := by
  simp only [step?, hp, Option.some.injEq, Prod.mk.injEq] at hs
  obtain ⟨rfl, rfl⟩ := hs
  refine ⟨by rw [Context.shutdown, if_pos hc], rfl, ?_⟩
  simp [tally, Context.shutdownNotices, hc, List.filter_append, Notice.isReport, Notice.isClose]

theorem Yields.step (h : relay.Yields broken) (hc : context.closure = .once broken)
    (hs : relay.step? now context = some (after, shared)) :
    shared.closure = context.closure ∧ after.Yields broken := by
  have closing : context.closing = true := congrArg Closure.closing hc
  cases h with
  | working hd ht =>
    rcases (Step.of_step? hs).of_undecided hd with ⟨hd', ht', he⟩ | ⟨_, open_, _⟩ | ⟨_, rfl, rfl⟩
    · exact ⟨he, .working hd' (ht'.trans ht)⟩
    · rw [closing] at open_
      cases open_
    · exact ⟨rfl, .leaving rfl ht⟩
  | leaving hp ht =>
    obtain ⟨rfl, hq, ht'⟩ := leave_of_closing hp closing hs
    exact ⟨rfl, .gone (.settling hq (ht'.trans ht))⟩
  | gone hg =>
    obtain ⟨rfl, hg⟩ := hg.step (congrArg Closure.broken hc) hs
    exact ⟨rfl, .gone hg⟩

/-- A relay in a tunnel that was open when it began to run: it goes on, or it ends by itself and
closes the tunnel. -/
inductive Decides (direction : Direction) (relay : Relay) (context : Context) : Prop where
  | working : context.closure = .untouched → relay.direction = direction →
      relay.phase.decided? = none → relay.tally = .blank → Decides direction relay context
  | breaking {cause : Cause} : context.closure = .untouched → cause.breaks = true →
      relay.phase = .breaking cause.exit → relay.tally = ⟨[cause.report direction], [], 0⟩ →
      Decides direction relay context
  | leaving {cause : Cause} : context.closure = ⟨false, cause.breaks, []⟩ →
      relay.phase = .leaving cause.exit → relay.tally = ⟨[cause.report direction], [], 0⟩ →
      Decides direction relay context
  | gone {cause : Cause} : context.closure = .once cause.breaks →
      relay.Gone cause.breaks cause.exit [cause.report direction] [cause.closing] →
      Decides direction relay context

variable {direction : Direction}

theorem tally_report_cause (ht : relay.tally = .blank) (cause : Cause) :
    (relay.report (cause.report relay.direction)).tally =
      ⟨[cause.report relay.direction], [], 0⟩ := by
  simp only [tally, Tally.blank, Tally.mk.injEq] at ht
  obtain ⟨reports, closings, shutdowns⟩ := ht
  simp [tally, report, List.filter_append, reports, closings, shutdowns, cause.isReport_report,
    cause.isClose_report]

theorem leave_of_open {cause : Cause} {report : Notice}
    (hc : context.closure = ⟨false, cause.breaks, []⟩) (hp : relay.phase = .leaving cause.exit)
    (ht : relay.tally = ⟨[report], [], 0⟩)
    (hs : relay.step? now context = some (after, shared)) :
    shared.closure = .once cause.breaks ∧ after.phase = .settling cause.exit ∧
      after.tally = ⟨[report], [cause.closing], 0⟩ := by
  have closing : context.closing = false := congrArg Closure.closing hc
  have broken : context.broken = cause.breaks := congrArg Closure.broken hc
  have notices : context.shutdownNotices = [cause.closing] := by
    simp only [Context.shutdownNotices, closing, Context.closeNotice, broken]
    rfl
  simp only [step?, hp, Option.some.injEq, Prod.mk.injEq] at hs
  obtain ⟨rfl, rfl⟩ := hs
  refine ⟨context.closure_shutdown now hc, rfl, ?_⟩
  simp only [tally, Tally.mk.injEq] at ht
  obtain ⟨reports, closings, shutdowns⟩ := ht
  have unreported : (Notice.finished relay.direction cause.exit).isReport = false := rfl
  have unclosed : (Notice.finished relay.direction cause.exit).isClose = false := rfl
  simp [tally, notices, List.filter_append, reports, closings, shutdowns, unreported, unclosed,
    cause.isReport_closing, cause.isClose_closing]

theorem Decides.step (h : relay.Decides direction context)
    (hs : relay.step? now context = some (after, shared)) : after.Decides direction shared := by
  cases h with
  | working hc hr hd ht =>
    have quiet : context.closing = false := congrArg Closure.closing hc
    have step := Step.of_step? hs
    rcases step.of_undecided hd with ⟨hd', ht', he⟩ | ⟨cause, _, rfl, rfl⟩ | ⟨closing, _, _⟩
    · exact .working (he.trans hc) (step.setup_eq.1.trans hr) hd' (ht'.trans ht)
    · have told := tally_report_cause ht cause
      rw [hr] at told
      by_cases hb : cause.breaks = true
      · exact .breaking hc hb (by simp [hb]) (by simpa [hr] using told)
      · have whole : cause.breaks = false := eq_false_of_ne_true hb
        exact .leaving (by rw [hc, whole]; rfl) (by simp [whole]) (by simpa [hr] using told)
    · rw [quiet] at closing
      cases closing
  | @breaking cause hc hb hp ht =>
    simp only [step?, hp, Option.some.injEq, Prod.mk.injEq] at hs
    obtain ⟨rfl, rfl⟩ := hs
    have closing : context.closing = false := congrArg Closure.closing hc
    have closes : context.closes = [] := congrArg Closure.closes hc
    refine .leaving ?_ rfl ht
    rw [hb, ← closing, ← closes]
    rfl
  | leaving hc hp ht =>
    obtain ⟨closed, hq, told⟩ := leave_of_open hc hp ht hs
    exact .gone closed (.settling hq told)
  | gone hc hg =>
    obtain ⟨rfl, hg⟩ := hg.step (congrArg Closure.broken hc) hs
    exact .gone hc hg

/-! ## Whole runs -/

theorem Runs.step?_eq_none (h : relay.Runs now context after shared) :
    after.step? now shared = none := by
  induction h with
  | waits h => exact h
  | steps _ _ ih => exact ih

theorem Runs.direction_eq (h : relay.Runs now context after shared) :
    after.direction = relay.direction := by
  induction h with
  | waits => rfl
  | steps hs _ ih => exact ih.trans (Step.of_step? hs).setup_eq.1

theorem Runs.isPrefix_log (h : relay.Runs now context after shared) : relay.log <+: after.log := by
  induction h with
  | waits => exact List.prefix_refl _
  | steps hs _ ih => exact (isPrefix_log_of_step? hs).trans ih

theorem Gone.reports_eq (h : relay.Gone broken exit reports closings) :
    relay.tally.reports = reports ∧ relay.tally.closings = closings := by
  cases h with
  | settling _ ht | closingSink _ _ ht | draining _ _ ht | finished _ ht =>
    rw [ht]
    exact ⟨rfl, rfl⟩

theorem Yields.reports_eq (h : relay.Yields broken) :
    relay.tally.reports = [] ∧ relay.tally.closings = [] := by
  cases h with
  | working _ ht | leaving _ ht =>
    rw [ht]
    exact ⟨rfl, rfl⟩
  | gone hg => exact hg.reports_eq

theorem Gone.tally_eq {time : Nat} {last : RelayExit}
    (h : relay.Gone broken exit reports closings) (hp : relay.phase = .finished last time) :
    last = exit ∧ relay.tally = ⟨reports, closings, if broken then 0 else 1⟩ := by
  cases h with
  | settling hq | closingSink hq | draining hq =>
    rw [hp] at hq
    cases hq
  | finished hq ht =>
    rw [hp] at hq
    cases hq
    exact ⟨rfl, ht⟩

theorem Yields.tally_eq {time : Nat} {last : RelayExit} (h : relay.Yields broken)
    (hp : relay.phase = .finished last time) :
    last = .closed ∧ relay.tally = ⟨[], [], if broken then 0 else 1⟩ := by
  cases h with
  | working hd =>
    rw [hp] at hd
    cases hd
  | leaving hq =>
    rw [hp] at hq
    cases hq
  | gone hg => exact hg.tally_eq hp

theorem Gone.runs (h : relay.Runs now context after shared)
    (hg : relay.Gone broken exit reports closings) (hb : context.broken = broken) :
    shared = context ∧ after.Gone broken exit reports closings := by
  induction h with
  | waits => exact ⟨rfl, hg⟩
  | steps hs _ ih =>
    obtain ⟨rfl, hg⟩ := hg.step hb hs
    exact ih hg hb

theorem Yields.runs (h : relay.Runs now context after shared) (hy : relay.Yields broken)
    (hc : context.closure = .once broken) :
    shared.closure = .once broken ∧ after.Yields broken := by
  induction h with
  | waits => exact ⟨hc, hy⟩
  | steps hs _ ih =>
    obtain ⟨he, hy⟩ := hy.step hc hs
    exact ih hy (he.trans hc)

/-- A relay that runs in an open tunnel leaves it open, or reports why it ends and has closed it by
the time it waits. -/
theorem Decides.runs (h : relay.Runs now context after shared)
    (hd : relay.Decides direction context) :
    (shared.closure = .untouched ∧ after.phase.decided? = none ∧ after.tally = .blank) ∨
      ∃ cause : Cause, shared.closure = .once cause.breaks ∧
        after.Gone cause.breaks cause.exit [cause.report direction] [cause.closing] := by
  have stuck := h.step?_eq_none
  have decides : after.Decides direction shared := by
    induction h with
    | waits => exact hd
    | steps hs _ ih => exact ih (hd.step hs) stuck
  cases decides with
  | working hc _ hd ht => exact .inl ⟨hc, hd, ht⟩
  | breaking _ _ hp | leaving _ hp => simp [step?, hp] at stuck
  | gone hc hg => exact .inr ⟨_, hc, hg⟩

end Relay

end TunnelServer
