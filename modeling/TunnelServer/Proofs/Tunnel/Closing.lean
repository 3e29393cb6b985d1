import TunnelServer.Proofs.Tunnel.Conduct
import TunnelServer.Tunnel.Schedule

/-!
# A tunnel is closed once

Of the relays of a tunnel exactly one reports why it ended, and it closes the tunnel in the same
turn; the others give way. If the end was no fault, every sink is shut down once and the client's
connection is left to be closed at the end.
-/

namespace TunnelServer

namespace Tunnel

/-- How a tunnel may stand between two turns: nobody has reported an end, or one relay has, and the
others are about to give way. -/
inductive ClosesOnce (tunnel : Tunnel) : Prop where
  | untouched :
      tunnel.context.closure = .untouched →
      (∀ relay ∈ tunnel.relays, relay.phase.decided? = none ∧ relay.tally = .blank) →
      tunnel.log.filter Notice.isReport = [] →
      tunnel.log.filter Notice.isClose = [] → ClosesOnce tunnel
  | closed {index : Nat} {reporter : Relay} {cause : Cause} :
      tunnel.context.closure = .once cause.breaks →
      tunnel.relays[index]? = some reporter →
      reporter.Gone cause.breaks cause.exit [cause.report reporter.direction] [cause.closing] →
      (∀ place other, place ≠ index → tunnel.relays[place]? = some other →
        other.Yields cause.breaks) →
      tunnel.log.filter Notice.isReport = [cause.report reporter.direction] →
      tunnel.log.filter Notice.isClose = [cause.closing] → ClosesOnce tunnel

variable {tunnel next first last : Tunnel} {index : Nat} {relay after : Relay}
  {context : Context} {p : Notice → Bool}

theorem filter_log_replace (h : relay.log <+: after.log) :
    (tunnel.replace index relay after context).log.filter p =
      tunnel.log.filter p ++ (after.log.filter p).drop (relay.log.filter p).length := by
  obtain ⟨added, ha⟩ := h
  simp [replace, ← ha, List.filter_append]

theorem filter_log_replace_eq (h : relay.log <+: after.log)
    (same : after.log.filter p = relay.log.filter p) :
    (tunnel.replace index relay after context).log.filter p = tunnel.log.filter p := by
  rw [filter_log_replace h, same, List.drop_length, List.append_nil]

theorem getElem?_replace_self (h : tunnel.relays[index]? = some relay) :
    (tunnel.replace index relay after context).relays[index]? = some after := by
  obtain ⟨bound, -⟩ := List.getElem?_eq_some_iff.mp h
  simp [replace, bound]

theorem getElem?_replace_ne {place : Nat} (h : index ≠ place) :
    (tunnel.replace index relay after context).relays[place]? = tunnel.relays[place]? := by
  simp [replace, List.getElem?_set_ne h]

theorem ClosesOnce.run_untouched (hc : tunnel.context.closure = .untouched)
    (quiet : ∀ relay ∈ tunnel.relays, relay.phase.decided? = none ∧ relay.tally = .blank)
    (hr : tunnel.log.filter Notice.isReport = []) (hl : tunnel.log.filter Notice.isClose = [])
    (place : tunnel.relays[index]? = some relay)
    (run : relay.Runs tunnel.now tunnel.context after context) :
    (tunnel.replace index relay after context).ClosesOnce := by
  obtain ⟨hd, ht⟩ := quiet relay (List.mem_of_getElem? place)
  have grows := run.isPrefix_log
  have reports : relay.log.filter Notice.isReport = [] := congrArg Tally.reports ht
  have closings : relay.log.filter Notice.isClose = [] := congrArg Tally.closings ht
  rcases Relay.Decides.runs run (.working hc rfl hd ht) with ⟨hc', hd', ht'⟩ | ⟨cause, hc', hg⟩
  · refine .untouched hc' ?_ ?_ ?_
    · intro other ho
      rcases List.mem_or_eq_of_mem_set ho with ho | rfl
      · exact quiet other ho
      · exact ⟨hd', ht'⟩
    · have reports' : after.log.filter Notice.isReport = [] := congrArg Tally.reports ht'
      rw [filter_log_replace_eq grows (reports'.trans reports.symm), hr]
    · have closings' : after.log.filter Notice.isClose = [] := congrArg Tally.closings ht'
      rw [filter_log_replace_eq grows (closings'.trans closings.symm), hl]
  · have reports' : after.log.filter Notice.isReport = [cause.report after.direction] := by
      rw [run.direction_eq]
      exact hg.reports_eq.1
    have closings' : after.log.filter Notice.isClose = [cause.closing] := hg.reports_eq.2
    refine .closed hc' (getElem?_replace_self place) (run.direction_eq ▸ hg) ?_ ?_ ?_
    · intro other_place other ne ho
      rw [getElem?_replace_ne (Ne.symm ne)] at ho
      obtain ⟨hd, ht⟩ := quiet other (List.mem_of_getElem? ho)
      exact .working hd ht
    · rw [filter_log_replace grows, hr, reports, reports']
      rfl
    · rw [filter_log_replace grows, hl, closings, closings']
      rfl

theorem ClosesOnce.run_closed {place : Nat} {reporter : Relay} {cause : Cause}
    (hc : tunnel.context.closure = .once cause.breaks)
    (hi : tunnel.relays[index]? = some reporter)
    (hg : reporter.Gone cause.breaks cause.exit [cause.report reporter.direction] [cause.closing])
    (hy : ∀ place other, place ≠ index → tunnel.relays[place]? = some other →
      other.Yields cause.breaks)
    (hr : tunnel.log.filter Notice.isReport = [cause.report reporter.direction])
    (hl : tunnel.log.filter Notice.isClose = [cause.closing])
    (hp : tunnel.relays[place]? = some relay)
    (run : relay.Runs tunnel.now tunnel.context after context) :
    (tunnel.replace place relay after context).ClosesOnce := by
  have grows := run.isPrefix_log
  by_cases same : place = index
  · subst same
    obtain rfl : reporter = relay := Option.some.inj (hi.symm.trans hp)
    obtain ⟨rfl, hg'⟩ := hg.runs run (congrArg Closure.broken hc)
    rw [← run.direction_eq] at hr
    refine .closed hc (getElem?_replace_self hi) (run.direction_eq ▸ hg') ?_ ?_ ?_
    · intro other_place other ne ho
      rw [getElem?_replace_ne (Ne.symm ne)] at ho
      exact hy other_place other ne ho
    · rw [filter_log_replace_eq grows (hg'.reports_eq.1.trans hg.reports_eq.1.symm), hr]
    · rw [filter_log_replace_eq grows (hg'.reports_eq.2.trans hg.reports_eq.2.symm), hl]
  · have yields := hy place relay same hp
    obtain ⟨hc', yields'⟩ := yields.runs run hc
    refine .closed hc' ((getElem?_replace_ne same).trans hi) hg ?_ ?_ ?_
    · intro other_place other ne ho
      by_cases own : place = other_place
      · subst own
        obtain rfl : after = other := Option.some.inj ((getElem?_replace_self hp).symm.trans ho)
        exact yields'
      · rw [getElem?_replace_ne own] at ho
        exact hy other_place other ne ho
    · rw [filter_log_replace_eq grows (yields'.reports_eq.1.trans yields.reports_eq.1.symm), hr]
    · rw [filter_log_replace_eq grows (yields'.reports_eq.2.trans yields.reports_eq.2.symm), hl]

/-- A call that neither breaks nor closes the tunnel. -/
def Quiet (operation : Operation) : Prop :=
  operation ≠ .markBroken ∧ operation ≠ .shutdown ∧ operation ≠ .finish

theorem Quiet.spares {operation : Operation} (h : Quiet operation) (now : Nat) (context : Context) :
    (operation.effect now context).closure = context.closure ∧
      (operation.notices context).filter Notice.isReport = [] ∧
      (operation.notices context).filter Notice.isClose = [] := by
  obtain ⟨unbroken, unclosed, unfinished⟩ := h
  cases operation with
  | markBroken => exact absurd rfl unbroken
  | shutdown => exact absurd rfl unclosed
  | finish => exact absurd rfl unfinished
  | recordWrite direction => cases direction <;> exact ⟨rfl, rfl, rfl⟩
  | _ => exact ⟨rfl, rfl, rfl⟩

theorem ClosesOnce.perform {operation : Operation} (h : tunnel.ClosesOnce) (hq : Quiet operation) :
    (tunnel.perform operation).ClosesOnce := by
  obtain ⟨closure, reports, closings⟩ := hq.spares tunnel.now tunnel.context
  have reports' : (tunnel.perform operation).log.filter Notice.isReport =
      tunnel.log.filter Notice.isReport := by
    rw [Tunnel.perform, List.filter_append, reports, List.append_nil]
  have closings' : (tunnel.perform operation).log.filter Notice.isClose =
      tunnel.log.filter Notice.isClose := by
    rw [Tunnel.perform, List.filter_append, closings, List.append_nil]
  cases h with
  | untouched hc quiet hr hl =>
    exact .untouched (closure.trans hc) quiet (reports'.trans hr) (closings'.trans hl)
  | closed hc hi hg hy hr hl =>
    exact .closed (closure.trans hc) hi hg hy (reports'.trans hr) (closings'.trans hl)

theorem ClosesOnce.turn (h : tunnel.ClosesOnce) (turn : Turn Quiet tunnel next) :
    next.ClosesOnce := by
  cases turn with
  | call quiet => exact h.perform quiet
  | elapse =>
    cases h with
    | untouched hc quiet hr hl => exact .untouched hc quiet hr hl
    | closed hc hi hg hy hr hl => exact .closed hc hi hg hy hr hl
  | run place run =>
    cases h with
    | untouched hc quiet hr hl => exact run_untouched hc quiet hr hl place run
    | closed hc hi hg hy hr hl => exact run_closed hc hi hg hy hr hl place run

theorem ClosesOnce.takesTurns (h : TakesTurns Quiet first last) (hf : first.ClosesOnce) :
    last.ClosesOnce := by
  induction h with
  | refl => exact hf
  | tail _ turn ih => exact ih.turn turn

theorem TakesTurns.directions_eq {allowed : Operation → Prop} (h : TakesTurns allowed first last) :
    last.relays.map Relay.direction = first.relays.map Relay.direction := by
  induction h with
  | refl => rfl
  | tail _ turn ih =>
    rw [← ih]
    cases turn with
    | elapse => rfl
    | call => rfl
    | @run index relay after context place run =>
      obtain ⟨bound, hb⟩ := List.getElem?_eq_some_iff.mp place
      simp only [replace]
      rw [List.map_set, run.direction_eq, ← hb, ← List.map_set, List.set_getElem_self]

theorem TakesTurns.exists_pair {allowed : Operation → Prop} {a b : Relay}
    (h : TakesTurns allowed first last) (hr : first.relays = [a, b]) :
    ∃ forth back, last.relays = [forth, back] ∧
      forth.direction = a.direction ∧ back.direction = b.direction := by
  have directions := h.directions_eq
  rw [hr] at directions
  obtain ⟨forth, tail, relays, hf, ht⟩ := List.map_eq_cons_iff.mp directions
  obtain ⟨back, none, rfl, hb, hn⟩ := List.map_eq_cons_iff.mp ht
  obtain rfl : none = [] := List.map_eq_nil_iff.mp hn
  exact ⟨forth, back, relays, hf, hb⟩

/-- How a tunnel of two relays ended: one of them for a cause of its own, the other one because of
it. -/
structure EndedBy (reporter other : Relay) (exit : RelayExit) (tunnel : Tunnel) : Prop where
  reporter_exit : ∃ time, reporter.exit? = some (exit, time)
  exit_ne : exit ≠ .closed
  other_exit : ∃ time, other.exit? = some (.closed, time)
  reported : ∃ cause : Cause, cause.exit = exit ∧
    tunnel.log.filter Notice.isReport = [cause.report reporter.direction] ∧
    reporter.log.filter Notice.isReport = [cause.report reporter.direction] ∧
    other.log.filter Notice.isReport = []
  closed : tunnel.log.filter Notice.isClose =
    [if tunnel.context.broken then .abortiveClose else .orderlyClose]
  broken_iff : tunnel.context.broken = true ↔ exit = .idle ∨ exit = .fault
  /-- A broken tunnel is reset on both sides, which finishing does not change. -/
  reset : tunnel.context.broken = true →
    tunnel.context.closes = [⟨.destination, .abortive⟩, ⟨.client, .abortive⟩] ∧
    (tunnel.perform .finish).context.closes = tunnel.context.closes ∧
    reporter.sink.timesAsked .shutdown = 0 ∧ other.sink.timesAsked .shutdown = 0
  /-- At the end of the stream only finishing closes the client's connection. -/
  shut : exit = .eof →
    tunnel.context.closes = [⟨.destination, .orderly⟩] ∧
    (tunnel.perform .finish).context.closes =
      [⟨.destination, .orderly⟩, ⟨.client, .orderly⟩] ∧
    reporter.sink.timesAsked .shutdown = 1 ∧ other.sink.timesAsked .shutdown = 1

theorem endedBy_of_gone {reporter other : Relay} {cause : Cause}
    (hc : tunnel.context.closure = .once cause.breaks)
    (hg : reporter.Gone cause.breaks cause.exit [cause.report reporter.direction] [cause.closing])
    (hy : other.Yields cause.breaks)
    (hr : tunnel.log.filter Notice.isReport = [cause.report reporter.direction])
    (hl : tunnel.log.filter Notice.isClose = [cause.closing])
    (he : reporter.exit?.isSome) (he' : other.exit?.isSome) :
    EndedBy reporter other cause.exit tunnel := by
  obtain ⟨⟨exit, time⟩, he⟩ := Option.isSome_iff_exists.mp he
  obtain ⟨⟨exit', time'⟩, he'⟩ := Option.isSome_iff_exists.mp he'
  obtain ⟨rfl, told⟩ := hg.tally_eq (Relay.exit?_eq_some_iff.mp he)
  obtain ⟨rfl, told'⟩ := hy.tally_eq (Relay.exit?_eq_some_iff.mp he')
  have broken : tunnel.context.broken = cause.breaks := congrArg Closure.broken hc
  have closes : tunnel.context.closes = (Closure.once cause.breaks).closes :=
    congrArg Closure.closes hc
  have shutdowns : reporter.sink.timesAsked .shutdown = if cause.breaks then 0 else 1 :=
    congrArg Tally.shutdowns told
  have shutdowns' : other.sink.timesAsked .shutdown = if cause.breaks then 0 else 1 :=
    congrArg Tally.shutdowns told'
  refine
    { reporter_exit := ⟨time, he⟩
      exit_ne := cause.exit_ne_closed
      other_exit := ⟨time', he'⟩
      reported := ⟨cause, rfl, hr, congrArg Tally.reports told, congrArg Tally.reports told'⟩
      closed := by rw [hl, broken]; rfl
      broken_iff := by rw [broken, cause.breaks_iff]
      reset := ?_
      shut := ?_ }
  · intro hb
    rw [broken] at hb
    simp only [hb, if_true] at shutdowns shutdowns' closes
    refine ⟨closes, ?_, shutdowns, shutdowns'⟩
    simp [perform, Operation.effect, Context.finish, broken, hb]
  · intro hx
    have whole : cause.breaks = false := by
      apply eq_false_of_ne_true
      rw [cause.breaks_iff, hx]
      decide
    rw [whole] at shutdowns shutdowns' closes broken
    refine ⟨closes, ?_, shutdowns, shutdowns'⟩
    simp [perform, Operation.effect, Context.finish, broken, closes, Closure.once]

/-- The calls that closing takes are made by the time a report can be seen. -/
theorem ClosesOnce.closes_eq (h : tunnel.ClosesOnce) : tunnel.context.closes =
    if tunnel.log.filter Notice.isReport = [] then []
    else (Closure.once tunnel.context.broken).closes := by
  cases h with
  | untouched hc _ hr =>
    rw [if_pos hr]
    exact congrArg Closure.closes hc
  | closed hc _ _ _ hr =>
    have broken : tunnel.context.broken = _ := congrArg Closure.broken hc
    rw [if_neg (by simp [hr]), broken]
    exact congrArg Closure.closes hc

/-- Of two relays of opposite directions in a fresh tunnel exactly one reports why it ended, and the
tunnel is closed once, when that is reported. -/
theorem pair_closed_once {direction : Direction} {label : String} {debug : Bool}
    {timeout timeout' bufferSize bufferSize' start now now' : Nat} {script script' : List Event}
    {plan plan' : SinkPlan} (hc : first.context = .fresh label debug start) (hl : first.log = [])
    (hr : first.relays =
      [.begin direction timeout bufferSize (.ofScript script) (.ofPlan plan) now,
        .begin direction.opposite timeout' bufferSize' (.ofScript script') (.ofPlan plan') now'])
    (h : TakesTurns Quiet first last) :
    ∃ forth back, last.relays = [forth, back] ∧
      forth.direction = direction ∧ back.direction = direction.opposite ∧
      last.context.closes = (if last.log.filter Notice.isReport = [] then []
        else (Closure.once last.context.broken).closes) ∧
      (forth.exit?.isSome → back.exit?.isSome →
        ∃ exit, EndedBy forth back exit last ∨ EndedBy back forth exit last) := by
  have opened : first.ClosesOnce := by
    refine .untouched (by rw [hc]; rfl) ?_ (by rw [hl]; rfl) (by rw [hl]; rfl)
    rw [hr]
    simp [Relay.begin, Phase.decided?, Relay.tally, Tally.blank]
  have closing := opened.takesTurns h
  have directions := h.directions_eq
  rw [hr] at directions
  obtain ⟨forth, tail, hlast, hf, ht⟩ := List.map_eq_cons_iff.mp directions
  obtain ⟨back, none, rfl, hb, hn⟩ := List.map_eq_cons_iff.mp ht
  obtain rfl : none = [] := List.map_eq_nil_iff.mp hn
  refine ⟨forth, back, hlast, hf, hb, closing.closes_eq, ?_⟩
  intro he he'
  cases closing with
  | untouched _ quiet =>
    -- no relay of such a tunnel has decided on its end
    obtain ⟨⟨exit, time⟩, finished⟩ := Option.isSome_iff_exists.mp he
    obtain ⟨undecided, -⟩ := quiet forth (by simp [hlast])
    rw [Relay.exit?_eq_some_iff.mp finished] at undecided
    cases undecided
  | @closed index reporter cause hc hi hg hy hr hl =>
    rw [hlast] at hi hy
    refine ⟨cause.exit, ?_⟩
    rcases index with _ | _ | index
    · obtain rfl : forth = reporter := Option.some.inj hi
      exact .inl (endedBy_of_gone hc hg (hy 1 back (by decide) rfl) hr hl he he')
    · obtain rfl : back = reporter := Option.some.inj hi
      exact .inr (endedBy_of_gone hc hg (hy 0 forth (by decide) rfl) hr hl he' he)
    · cases hi

/-- The client's stream ends at the very time at which reading from the destination fails. -/
def tie : Tunnel :=
  setUp ⟨"tie", false, 4, 2⟩ 0 ⟨.ofScript [⟨0, .data [1]⟩, ⟨3, .endOfStream⟩], .ofPlan .unrestricted⟩
    ⟨.ofScript [⟨3, .fault .connectionReset⟩], .ofPlan .unrestricted⟩

theorem pair_closed_once_tie :
    TakesTurns Quiet tie (tie.runUntil 100) ∧
      ∃ forth back, (tie.runUntil 100).relays = [forth, back] ∧
        EndedBy forth back .eof (tie.runUntil 100) := by
  have h : TakesTurns Quiet tie (tie.runUntil 100) := takesTurns_advance _ _ tie
  have exits : (tie.runUntil 100).relays.map Relay.exit? = [some (.eof, 3), some (.closed, 3)] := by
    decide
  obtain ⟨forth, back, hr, -, -, -, ended⟩ := pair_closed_once rfl rfl rfl h
  rw [hr, List.map_cons, List.map_singleton, List.cons.injEq, List.cons.injEq] at exits
  obtain ⟨he, he', -⟩ := exits
  refine ⟨h, forth, back, hr, ?_⟩
  obtain ⟨exit, ended | ended⟩ := ended (by rw [he]; rfl) (by rw [he']; rfl)
  · obtain ⟨time, same⟩ := ended.reporter_exit
    rw [he] at same
    cases same
    exact ended
  · obtain ⟨time, same⟩ := ended.other_exit
    rw [he] at same
    cases same

end Tunnel

end TunnelServer
