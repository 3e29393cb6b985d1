import TunnelServer.Proofs.Server.Admission
import TunnelServer.Proofs.Server.Handover
import TunnelServer.Proofs.Tunnel.Closing
import TunnelServer.Proofs.Tunnel.Promptness

/-!
# Waiting for the other direction

When the relay to the destination has ended, the tunnel is closing, so the relay from the destination
ends within the time for closing. A server that waits longer than that never has to say that it is
still alive.
-/

namespace TunnelServer

namespace Relay

variable {now moment : Nat} {relay after : Relay} {context shared : Context}

theorem Hurries.runs (h : relay.Hurries moment now) (run : relay.Runs now context after shared) :
    after.Hurries moment now := by
  induction run with
  | waits => exact h
  | steps step _ ih => exact ih (h.step step)

theorem Runs.closing (h : relay.Runs now context after shared) (closing : context.closing = true) :
    shared.closing = true := by
  induction h with
  | waits => exact closing
  | steps step _ ih => exact ih ((Step.of_step? step).grows.closing closing)

theorem exists_step?_of_draining {exit : RelayExit} {deadline wake : Nat}
    (hp : relay.phase = .draining exit deadline) (hw : relay.wake? = some wake) (late : wake ≤ now)
    (context : Context) : ∃ gone, relay.step? now context = some (gone, context) ∧
      gone.phase = .finished exit now := by
  simp only [wake?, hp, Option.some.injEq] at hw
  have answered : relay.drain? now exit deadline ≠ none := by
    rw [Ne, drain?_eq_none_iff, hw]
    exact Nat.not_lt.mpr late
  obtain ⟨gone, drained⟩ := Option.ne_none_iff_exists'.mp answered
  refine ⟨gone, ?_, (drain?_cases drained).1⟩
  simp only [step?, hp, drained, Option.map_some]

end Relay

namespace Tunnel

/-- The relay to the destination has ended, and the one from it, which is to end soon after the
moment, is waited for. -/
structure Joining (moment : Nat) (forth back : Relay) (tunnel : Tunnel) : Prop where
  relays : tunnel.relays = [forth, back]
  forth_direction : forth.direction = .clientToDestination
  back_direction : back.direction = .destinationToClient
  ended : ∃ exit time, forth.phase = .finished exit time
  closing : tunnel.context.closing = true
  hurries : back.Hurries moment tunnel.now

variable {moment limit : Nat} {forth back after : Relay} {tunnel : Tunnel} {context : Context}

namespace Joining

theorem place (h : tunnel.Joining moment forth back) : tunnel.relays[1]? = some back := by
  rw [h.relays]
  rfl

theorem hasEnded_eq (h : tunnel.Joining moment forth back) :
    tunnel.hasEnded .destinationToClient = back.exit?.isSome := by
  simp [hasEnded, Tunnel.exit?, h.relays, h.forth_direction, h.back_direction]

theorem allWait_eq (h : tunnel.Joining moment forth back) :
    tunnel.allWait = (back.step? tunnel.now tunnel.context).isNone := by
  obtain ⟨exit, time, hp⟩ := h.ended
  have idle : forth.step? tunnel.now tunnel.context = none := by simp [Relay.step?, hp]
  simp [allWait, Relay.waits, h.relays, idle]

theorem round_eq (h : tunnel.Joining moment forth back)
    (run : back.Runs tunnel.now tunnel.context after context) :
    tunnel.round = tunnel.replace 1 back after context := by
  obtain ⟨exit, time, hp⟩ := h.ended
  have idle : forth.Runs tunnel.now tunnel.context forth tunnel.context :=
    .waits (by simp [Relay.step?, hp])
  have first : tunnel.relays[0]? = some forth := by
    rw [h.relays]
    rfl
  have stays : tunnel.turn 0 = tunnel := by
    simp only [turn, first, Relay.runs_iff.mp idle, replace_self first]
  have moves : tunnel.turn 1 = tunnel.replace 1 back after context := by
    simp only [turn, h.place, Relay.runs_iff.mp run]
  show (List.range tunnel.relays.length).foldl turn tunnel = _
  rw [h.relays]
  show turn (turn tunnel 0) 1 = _
  rw [stays, moves]

theorem round (h : tunnel.Joining moment forth back)
    (run : back.Runs tunnel.now tunnel.context after context) :
    tunnel.round.Joining moment forth after := by
  rw [h.round_eq run]
  refine ⟨?_, h.forth_direction, run.direction_eq.trans h.back_direction, h.ended,
    run.closing h.closing, h.hurries.runs run⟩
  simp [replace, h.relays]

theorem advanceFor_of_step? (h : tunnel.Joining moment forth back)
    (busy : back.step? tunnel.now tunnel.context ≠ none) (bound : Option Nat)
    (stop : Tunnel → Bool) (rounds : Nat) :
    advanceFor bound stop (rounds + 1) tunnel = advanceFor bound stop rounds tunnel.round := by
  have moves : tunnel.allWait = false := by
    rw [h.allWait_eq, Option.isNone_eq_false_iff, Option.isSome_iff_ne_none]
    exact busy
  simp only [advanceFor, moves, Bool.not_false, if_true]

theorem joined_of_finished (h : tunnel.Joining moment forth back) {exit : RelayExit} {time : Nat}
    (hp : back.phase = .finished exit time) (bound : Option Nat) (rounds : Nat) :
    (advanceFor bound (hasEnded .destinationToClient) rounds tunnel).hasEnded
      .destinationToClient = true := by
  have done : tunnel.hasEnded .destinationToClient = true := by
    rw [h.hasEnded_eq, Relay.exit?_eq_some_iff.mpr hp]
    rfl
  have waits : tunnel.allWait = true := by
    rw [h.allWait_eq]
    simp [Relay.step?, hp]
  cases rounds with
  | zero => exact done
  | succ rounds => simp [advanceFor, waits, done]

theorem joined_of_draining (h : tunnel.Joining moment forth back) {exit : RelayExit}
    {deadline wake : Nat} (hp : back.phase = .draining exit deadline)
    (hw : back.wake? = some wake) (late : wake ≤ tunnel.now) (bound : Option Nat) (rounds : Nat) :
    (advanceFor bound (hasEnded .destinationToClient) (rounds + 1) tunnel).hasEnded
      .destinationToClient = true := by
  obtain ⟨gone, step, finished⟩ := Relay.exists_step?_of_draining hp hw late tunnel.context
  have run : back.Runs tunnel.now tunnel.context gone tunnel.context :=
    .steps step (.waits (by simp [Relay.step?, finished]))
  rw [h.advanceFor_of_step? (by simp [step])]
  exact (h.round run).joined_of_finished finished bound rounds

/-- A relay that waits, waits for its sink, and not beyond the time for closing. -/
theorem joined_of_waits (h : tunnel.Joining moment forth back)
    (idle : back.step? tunnel.now tunnel.context = none) (most : moment + Millis.closeLimit ≤ limit)
    (rounds : Nat) :
    (advanceFor (some limit) (hasEnded .destinationToClient) (rounds + 2) tunnel).hasEnded
      .destinationToClient = true := by
  have ended := Relay.isOver_of_step? h.closing idle
  cases hp : back.phase with
  | finished exit time => exact h.joined_of_finished hp _ _
  | draining exit deadline =>
    have soon : deadline ≤ moment + Millis.closeLimit := by
      cases h.hurries with
      | atOnce _ active => exact absurd ended active
      | draining hq _ _ most =>
        rw [hp] at hq
        cases hq
        exact most
      | finished hq =>
        rw [hp] at hq
        cases hq
    have waits : tunnel.allWait = true := by
      rw [h.allWait_eq, idle]
      rfl
    have lasts : tunnel.hasEnded .destinationToClient = false := by
      rw [h.hasEnded_eq]
      simp [Relay.exit?, hp]
    obtain ⟨wake, hw⟩ : ∃ wake, back.wake? = some wake := ⟨_, by simp [Relay.wake?, hp]; rfl⟩
    have next : tunnel.next? = some wake := by
      obtain ⟨_, _, hq⟩ := h.ended
      have silent : forth.wake? = none := by simp [Relay.wake?, hq]
      simp [next?, h.relays, hw, silent]
    have ahead : ¬ limit < wake := by
      simp only [Relay.wake?, hp, Option.some.injEq] at hw
      omega
    have goes : advanceFor (some limit) (hasEnded .destinationToClient) (rounds + 2) tunnel =
        advanceFor (some limit) (hasEnded .destinationToClient) (rounds + 1)
          { tunnel with now := wake } := by
      simp [advanceFor, waits, lasts, next, ahead]
    have begun : tunnel.now ≤ wake := Nat.le_of_lt (Relay.lt_wake_of_step? idle hw)
    have later : Joining moment forth back { tunnel with now := wake } := by
      refine ⟨h.relays, h.forth_direction, h.back_direction, h.ended, h.closing, ?_⟩
      refine h.hurries.elapse h.closing begun ⟨idle, fun time woken => ?_⟩
      exact Nat.le_of_eq (Option.some.inj (hw.symm.trans woken))
    rw [goes]
    exact later.joined_of_draining hp hw (Nat.le_refl wake) _ rounds
  | _ =>
    rw [hp] at ended
    exact ended.elim

theorem joined (h : tunnel.Joining moment forth back) (most : moment + Millis.closeLimit ≤ limit)
    (rounds : Nat) :
    (advanceFor (some limit) (hasEnded .destinationToClient) (rounds + 3) tunnel).hasEnded
      .destinationToClient = true := by
  by_cases idle : back.step? tunnel.now tunnel.context = none
  · exact h.joined_of_waits idle most (rounds + 1)
  · have run := Relay.runs_run tunnel.now back tunnel.context
    have settled := h.round run
    rw [h.advanceFor_of_step? idle]
    refine settled.joined_of_waits ?_ most rounds
    rw [h.round_eq run]
    exact run.step?_eq_none

theorem hasEnded_awaitSecond (h : tunnel.Joining moment forth back)
    (most : moment + Millis.closeLimit ≤ limit) :
    (Server.awaitSecond limit tunnel).hasEnded .destinationToClient = true := by
  have enough : 3 ≤ tunnel.effort := by
    unfold effort
    omega
  have joined := h.joined most (tunnel.effort - 3)
  rw [Nat.sub_add_cancel enough] at joined
  have same : (tunnel.advance (some limit) (hasEnded .destinationToClient)).hasEnded
      .destinationToClient = true := joined
  simp only [Server.awaitSecond, same, if_true]

end Joining

/-- When the first wait is over because the relay to the destination ended, the tunnel has been
closing since some moment up to that time. -/
theorem joining_awaitFirst {setup : Setup} {start : Nat} {client destination : Endpoint}
    {exit : RelayExit} {time : Nat}
    (h : (Server.awaitFirst (.setUp setup start client destination)).exit? .clientToDestination =
      some (exit, time)) :
    ∃ moment forth back, moment ≤ time ∧
      (Server.awaitFirst (.setUp setup start client destination)).Joining moment forth back := by
  let fresh : Tunnel := .setUp setup start client destination
  let first := Server.awaitFirst fresh
  have turns : TakesTurns (fun _ => False) fresh first := takesTurns_advance none _ fresh
  obtain ⟨forth, back, relays, hf, hb⟩ := turns.exists_pair rfl
  have opened : ∀ moment ∈ fresh.context.closedAt, moment ≤ fresh.now := by
    intro moment closed
    cases closed
  have known (index : Nat) (relay : Relay) (place : first.relays[index]? = some relay)
      {direction : Direction} {source : Source} {sink : Sink}
      (started : fresh.relays[index]? =
        some (.begin direction setup.timeout setup.bufferSize source sink fresh.now)) :
      relay.Prompt start first.now first.context := by
    obtain ⟨begun, hi, prompt, -, -⟩ := prompt_begin started opened
    obtain ⟨found, hr, prompt'⟩ := turns.reaches.prompt ⟨begun, hi, prompt⟩
    obtain rfl : relay = found := Option.some.inj (place.symm.trans hr)
    exact prompt'
  have forthPrompt := known 0 forth (by rw [relays]; rfl) rfl
  have backPrompt := known 1 back (by rw [relays]; rfl) rfl
  have exited : forth.exit? = some (exit, time) := by
    have direct : forth.direction = .clientToDestination := hf
    have found : first.exit? .clientToDestination = some (exit, time) := h
    simpa [Tunnel.exit?, relays, direct] using found
  have hp := Relay.exit?_eq_some_iff.mp exited
  have attests := forthPrompt.attests
  rw [hp] at attests
  obtain ⟨moment, closed⟩ := Option.isSome_iff_exists.mp attests.1
  exact ⟨max moment start, forth, back, ((forthPrompt.hurries moment closed).exit_le exited).1,
    relays, hf, hb, ⟨exit, time, hp⟩, attests.1, backPrompt.hurries moment closed⟩

end Tunnel

/-! ## What the log says -/

/-- The record says that the relay from the destination is still alive. -/
def LogLine.SaysAlive (line : LogLine) : Prop :=
  ∃ label peer, line = (Remark.relayStillAlive label).record peer

theorem LogLine.SaysAlive.level {line : LogLine} (h : line.SaysAlive) : line.level = .warn := by
  obtain ⟨label, peer, rfl⟩ := h
  rfl

theorem head?_toList_append {first : String} {letter : Char}
    (h : first.toList.head? = some letter) (rest : String) :
    (first ++ rest).toList.head? = some letter := by
  rw [String.toList_append, List.head?_append, h, Option.some_or]

theorem LogLine.SaysAlive.head? {line : LogLine} (h : line.SaysAlive) :
    line.message.toList.head? = some 'D' := by
  obtain ⟨label, peer, rfl⟩ := h
  exact head?_toList_append rfl label

theorem LogLine.not_saysAlive_of_head? {line : LogLine} (letter : Char)
    (h : line.message.toList.head? = some letter) (other : letter ≠ 'D') : ¬ line.SaysAlive := by
  intro alive
  rw [alive.head?, Option.some.injEq] at h
  exact other h.symm

theorem Notice.not_saysAlive (label buffers : String) (notice : Notice) :
    ¬ (notice.record label buffers).SaysAlive := by
  cases notice with
  | readError direction kind =>
    exact LogLine.not_saysAlive_of_head? 'R' (head?_toList_append
      (head?_toList_append (head?_toList_append (head?_toList_append rfl _) _) _) _) (by decide)
  | writeError direction kind =>
    exact LogLine.not_saysAlive_of_head? 'W' (head?_toList_append
      (head?_toList_append (head?_toList_append (head?_toList_append rfl _) _) _) _) (by decide)
  | _ =>
    intro alive
    cases alive.level

theorem ConnectError.not_saysAlive (peer : String) (cause : ConnectError) :
    ¬ ((Remark.notConnected cause).record peer).SaysAlive := by
  cases cause with
  | unknownHost host source =>
    exact LogLine.not_saysAlive_of_head? 'u'
      (head?_toList_append (head?_toList_append (head?_toList_append rfl _) _) _) (by decide)
  | loopback ip =>
    exact LogLine.not_saysAlive_of_head? 'l'
      (head?_toList_append (head?_toList_append rfl _) _) (by decide)
  | timeout address =>
    exact LogLine.not_saysAlive_of_head? 't' (head?_toList_append rfl _) (by decide)
  | io address source =>
    exact LogLine.not_saysAlive_of_head? 'f'
      (head?_toList_append (head?_toList_append (head?_toList_append rfl _) _) _) (by decide)

namespace Handshake

/-- What a handshake logged that is more urgent than what helps to find faults. -/
def urgent (talk : Conversation) : List LogLine := talk.log.filter (·.level ≠ .debug)

theorem sendByte_keeps_urgent (step : Step) (byte : UInt8) : Keeps urgent (sendByte step byte) := by
  intro talk
  rcases sendByte_cases step byte talk with ⟨_, _, he⟩ | ⟨_, _, _, he⟩ | ⟨_, _, he⟩ <;>
    rw [he] <;> rfl

theorem run_keeps_urgent (secret : Secret) (readTimeout : Nat) :
    Keeps urgent (run secret readTimeout) := by
  have reads (talk : Conversation) (now : Nat) (source : Source) :
      urgent { talk with now, source } = urgent talk := rfl
  have notes (talk : Conversation) (message : String) :
      urgent { talk with log := talk.log ++ [⟨.debug, message⟩] } = urgent talk := by
    simp [urgent]
  exact (identify_keeps_of reads notes secret readTimeout).bind fun pooling =>
    (sendByte_keeps_urgent _ _).bind fun _ => learnDestination_keeps_of reads pooling

end Handshake

namespace Server

variable {server : Server} {machine : Machine} {visit : Visit} {talk : Conversation}
  {result : Except HandshakeHalt Destination} {line : LogLine}

theorem level_of_mem_admission (h : server.admission visit = (result, talk)) (mem : line ∈ talk.log) :
    line.level = .debug := by
  have kept := Handshake.run_keeps_urgent server.secret server.timeouts.handshake
    ⟨visit.start, visit.client.source, visit.client.sink, []⟩
  have same : (Handshake.run server.secret server.timeouts.handshake
      ⟨visit.start, visit.client.source, visit.client.sink, []⟩).2 = talk := congrArg Prod.snd h
  rw [same] at kept
  have none : talk.log.filter (·.level ≠ .debug) = [] := kept
  simpa using List.filter_eq_nil_iff.mp none line mem

theorem not_saysAlive_of_level {level : Level} (h : line.level = level) (other : level ≠ .warn) :
    ¬ line.SaysAlive := fun alive => other (h.symm.trans alive.level)

theorem not_saysAlive_admission (h : server.admission visit = (result, talk)) (remark : Remark)
    {level : Level} (hl : (remark.record visit.peer).level = level) (other : level ≠ .warn)
    (mem : line ∈ talk.log ++ [remark.record visit.peer]) : ¬ line.SaysAlive := by
  rcases List.mem_append.mp mem with mem | mem
  · exact not_saysAlive_of_level (level_of_mem_admission h mem) (by decide)
  · rw [List.mem_singleton.mp mem]
    exact not_saysAlive_of_level hl other

/-- A server that waits longer than the time for closing has nothing to say about the relay that it
waits for. -/
theorem not_saysAlive_relay (patient : Millis.closeLimit < server.timeouts.peerJoin)
    {setup : Tunnel.Setup} {start : Nat} {client : Endpoint} {attempts : List SocketAddress}
    (mem : line ∈ (server.relay visit client attempts (.setUp setup start client visit.far)).log) :
    ¬ line.SaysAlive := by
  simp only [relay] at mem
  split at mem
  · obtain ⟨notice, -, rfl⟩ := List.mem_map.mp mem
    exact Notice.not_saysAlive _ _ notice
  · rename_i exit time ended
    obtain ⟨moment, forth, back, past, joining⟩ := Tunnel.joining_awaitFirst ended
    have most : moment + Millis.closeLimit ≤ time + server.timeouts.peerJoin :=
      Nat.add_le_add past (Nat.le_of_lt patient)
    have joined := joining.hasEnded_awaitSecond most
    simp only [joined, if_true, List.append_nil, List.mem_map] at mem
    obtain ⟨notice, -, rfl⟩ := mem
    exact Notice.not_saysAlive _ _ notice

theorem not_saysAlive_connect (patient : Millis.closeLimit < server.timeouts.peerJoin)
    {client : Endpoint} {now : Nat} {destination : Destination}
    (mem : line ∈ (server.connect machine visit client now destination).log) :
    ¬ line.SaysAlive := by
  simp only [connect] at mem
  split at mem
  · rename_i cause _
    rw [List.mem_singleton.mp mem]
    exact ConnectError.not_saysAlive _ cause
  · split at mem
    · cases mem
    · exact not_saysAlive_relay patient mem

theorem not_saysAlive_serve (patient : Millis.closeLimit < server.timeouts.peerJoin)
    (mem : line ∈ (server.serve machine visit).log) : ¬ line.SaysAlive := by
  rcases h : server.admission visit with ⟨result, talk⟩
  match result with
  | .error .parked =>
    rw [serve_of_parked h] at mem
    exact not_saysAlive_of_level (level_of_mem_admission h mem) (by decide)
  | .error (.failed cause) =>
    rw [serve_of_failed h] at mem
    have calm : ((Remark.turnedAway cause).record visit.peer).level ≠ .warn := by
      show (Remark.turnedAwayRecord visit.peer cause).level ≠ _
      unfold Remark.turnedAwayRecord
      split <;> exact Level.noConfusion
    exact not_saysAlive_admission h _ rfl calm mem
  | .ok destination =>
    rw [serve_of_ok h] at mem
    rcases List.mem_append.mp mem with mem | mem
    · exact not_saysAlive_admission h _ rfl (by simp [Remark.record]) mem
    · exact not_saysAlive_connect patient mem

end Server

open Tunnel (Reaches EndsPromptly)

/-- Closing is prompt. Whatever its streams do and whatever else is done with its tunnel, a relay
ends at most the time for closing after its tunnel started to close, or at once if it was broken
then, and has nothing more to do with its streams but to shut its sink down. So a server that waits
longer than that for its second relay never says that it is still alive. -/
theorem closing_is_prompt :
    (∀ {allowed : Operation → Prop} {first last : Tunnel} {index moment timeout bufferSize : Nat}
      {direction : Direction} {source : Source} {sink : Sink},
      first.relays[index]? = some (.begin direction timeout bufferSize source sink first.now) →
      (∀ moment ∈ first.context.closedAt, moment ≤ first.now) →
      Reaches allowed first last → last.context.closedAt = some moment →
      (∃ relay, last.relays[index]? = some relay ∧
        EndsPromptly allowed first last index moment relay) ∧
      ∀ time, ∃ later, Reaches allowed last later ∧ time ≤ later.now) ∧
    ∀ (server : Server) (machine : Machine) (visit : Visit),
      Millis.closeLimit < server.timeouts.peerJoin →
      ∀ label, (Remark.relayStillAlive label).record visit.peer ∉ (server.serve machine visit).log := by
  constructor
  · intro allowed first last index moment timeout bufferSize direction source sink started past moves
      closed
    obtain ⟨relay, place, -, ends⟩ := Tunnel.ends_promptly started past moves closed
    exact ⟨⟨relay, place, ends⟩, last.exists_reaches_le_now allowed⟩
  · intro server machine visit patient label mem
    exact Server.not_saysAlive_serve patient mem ⟨label, visit.peer, rfl⟩

/-- The client's stream ends, and the destination's connection is never shut down; the client takes
nothing of what the destination sends. -/
def reluctant : Tunnel :=
  .setUp ⟨"reluctant", false, 9000, 2⟩ 0
    ⟨.ofScript [⟨3, .endOfStream⟩], .ofPlan { SinkPlan.unrestricted with stalls := [⟨0, none⟩] }⟩
    ⟨.ofScript [⟨1, .data [1]⟩], .ofPlan { SinkPlan.unrestricted with shutdown := .hangs }⟩

/-- A server with the standard limits that knows one host. -/
def patientServer : Server :=
  ⟨sevens, .standard, 2, none, false,
    ⟨.ofTable (.ofList [("a", .v4 ⟨192, 0, 2, 7⟩)]) 0, true, 10000⟩⟩

/-- An eager client whose destination is in no hurry to close. -/
def eagerVisit : Visit :=
  ⟨"192.0.2.1:50000", 0, ⟨.ofScript eager, .ofPlan .slow⟩,
    ⟨.ofScript [], .ofPlan { SinkPlan.unrestricted with shutdown := .hangs }⟩, ⟨0, 0⟩, ⟨0, 0⟩⟩

theorem closing_is_prompt_reluctant :
    (∃ relay, (reluctant.runUntil 6000).relays[0]? = some relay ∧
      relay.exit? = some (.eof, 3 + Millis.closeLimit) ∧
      EndsPromptly (fun _ => False) reluctant (reluctant.runUntil 6000) 0 3 relay) ∧
    (patientServer.serve Connector.openMachine eagerVisit).tunnel.map
        (·.relays.map Relay.exit?) = some [some (.eof, 5040), some (.closed, 5040)] ∧
    ∀ label, (Remark.relayStillAlive label).record eagerVisit.peer ∉
      (patientServer.serve Connector.openMachine eagerVisit).log := by
  have moves : Reaches (fun _ => False) reluctant (reluctant.runUntil 6000) :=
    (Tunnel.takesTurns_advance _ _ reluctant).reaches
  have exits : (reluctant.runUntil 6000).relays.map Relay.exit? =
      [some (.eof, 5003), some (.closed, 3)] := by decide
  have started : reluctant.relays[0]? = some (.begin .clientToDestination 9000 2
      (.ofScript [⟨3, .endOfStream⟩]) (.ofPlan { SinkPlan.unrestricted with shutdown := .hangs })
      reluctant.now) := rfl
  have closed : (reluctant.runUntil 6000).context.closedAt = some 3 := by decide
  obtain ⟨⟨relay, place, ends⟩, -⟩ := closing_is_prompt.1 started nofun moves closed
  have exited : relay.exit? = some (.eof, 5003) := by
    have here := congrArg (·[0]?) exits
    simpa [place] using here
  exact ⟨⟨relay, place, exited, ends⟩, by decide +kernel,
    closing_is_prompt.2 patientServer Connector.openMachine eagerVisit (by decide)⟩

end TunnelServer
