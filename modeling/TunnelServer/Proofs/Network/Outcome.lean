import Mathlib.Data.List.Induction
import TunnelServer.Proofs.Network.Loopback

/-!
# What comes of a destination, and when

A connector with a table of hosts ends in one of six ways. Which one it is, and when, follows from
the table and the time that it takes, from the limit and the policy, and from how the address
reacts. The limit holds for the table and for the address alike, so no attempt takes longer than
twice the limit.
-/

namespace TunnelServer

namespace HostTable

variable {hosts : List (String × IpAddress)} {host : String} {ip : IpAddress}

/-- The entry for a host that was added last. -/
def LastEntry (hosts : List (String × IpAddress)) (host : String) (ip : IpAddress) : Prop :=
  ∃ before after, hosts = before ++ (host, ip) :: after ∧ host ∉ after.map Prod.fst

theorem exists_lastEntry (h : host ∈ hosts.map Prod.fst) : ∃ ip, LastEntry hosts host ip := by
  induction hosts with
  | nil => cases h
  | cons entry hosts ih =>
    by_cases again : host ∈ hosts.map Prod.fst
    · obtain ⟨ip, before, after, rfl, last⟩ := ih again
      exact ⟨ip, entry :: before, after, rfl, last⟩
    · obtain rfl : host = entry.1 := by simp_all
      exact ⟨entry.2, [], hosts, rfl, again⟩

theorem ofList_concat (hosts : List (String × IpAddress)) (name : String) (ip : IpAddress) :
    ofList (hosts ++ [(name, ip)]) = (ofList hosts).withHost name ip := by
  rw [ofList, ofList, List.foldl_append]
  rfl

theorem find?_ofList_append (before : List (String × IpAddress))
    {after : List (String × IpAddress)} (other : host ∉ after.map Prod.fst) :
    (ofList (before ++ after)).find? host = (ofList before).find? host := by
  induction after using List.reverseRecOn with
  | nil => rw [List.append_nil]
  | append_singleton after entry ih =>
    rw [List.map_append, List.mem_append, not_or] at other
    have different : host ≠ entry.1 := by simpa using other.2
    rw [← List.append_assoc, ofList_concat, find?_withHost, if_neg different, ih other.1]

theorem find?_ofList_of_notMem (h : host ∉ hosts.map Prod.fst) :
    (ofList hosts).find? host = none :=
  find?_ofList_append [] h

theorem LastEntry.find?_ofList (h : LastEntry hosts host ip) :
    (ofList hosts).find? host = some ip := by
  obtain ⟨before, after, rfl, last⟩ := h
  rw [List.append_cons, find?_ofList_append _ last, ofList_concat, find?_withHost, if_pos rfl]

end HostTable

/-- An address that does not answer before a limit is over. -/
def Reaction.QuietFor (limit : Nat) : Reaction → Prop
  | .accepts after => limit < after
  | .fails after _ => limit < after
  | .silent => True

namespace Connector

open HostTable (LastEntry)

variable {hosts : List (String × IpAddress)} {delay limit : Nat} {policy : Bool} {machine : Machine}
  {destination : Destination} {connector : Connector} {address : SocketAddress} {start after : Nat}
  {run : ConnectRun}

theorem attempt_of_accepts (reaction : machine.react address = .accepts after)
    (inTime : after ≤ connector.connectTimeout) : connector.attempt machine address start =
      ⟨.ok ⟨address, true⟩, start + after, [address]⟩ := by
  simp only [attempt, reaction, Nat.not_lt.mpr inTime, if_false]

theorem attempt_of_fails {cause : IoError} (reaction : machine.react address = .fails after cause)
    (inTime : after ≤ connector.connectTimeout) : connector.attempt machine address start =
      ⟨.error (.io address cause), start + after, [address]⟩ := by
  simp only [attempt, reaction, Nat.not_lt.mpr inTime, if_false]

theorem attempt_of_quiet (quiet : (machine.react address).QuietFor connector.connectTimeout) :
    connector.attempt machine address start =
      ⟨.error (.timeout address), start + connector.connectTimeout, [address]⟩ := by
  cases reaction : machine.react address with
  | accepts after | fails after cause =>
    rw [reaction] at quiet
    have late : connector.connectTimeout < after := quiet
    simp only [attempt, reaction, late, if_true]
  | silent => simp only [attempt, reaction]

/-- The table answers in time, and the policy lets the address pass. -/
structure Passes (hosts : List (String × IpAddress)) (delay limit : Nat) (policy : Bool)
    (host : String) (ip : IpAddress) : Prop where
  soon : delay ≤ limit
  entry : LastEntry hosts host ip
  allowed : policy = true → ¬ ip.NamesLoopback

/-- How an attempt to connect ends, at what time, and which connections are tried for it. -/
inductive Course (hosts : List (String × IpAddress)) (delay limit : Nat) (policy : Bool)
    (machine : Machine) (destination : Destination) : ConnectRun → Prop where
  | unresolved (late : limit < delay) : Course hosts delay limit policy machine destination
      ⟨.error (.unknownHost destination.host (.because .timedOut "resolve timed out")), limit, []⟩
  | unknown (soon : delay ≤ limit) (absent : destination.host ∉ hosts.map Prod.fst) :
      Course hosts delay limit policy machine destination
        ⟨.error (.unknownHost destination.host
          (.because .notFound ("no address for " ++ destination.host))), delay, []⟩
  | rejected {ip : IpAddress} (soon : delay ≤ limit) (entry : LastEntry hosts destination.host ip)
      (wary : policy = true) (loops : ip.NamesLoopback) :
      Course hosts delay limit policy machine destination ⟨.error (.loopback ip), delay, []⟩
  | connected {ip : IpAddress} {after : Nat}
      (passes : Passes hosts delay limit policy destination.host ip)
      (reaction : machine.react ⟨ip, destination.port⟩ = .accepts after) (inTime : after ≤ limit) :
      Course hosts delay limit policy machine destination
        ⟨.ok ⟨⟨ip, destination.port⟩, true⟩, delay + after, [⟨ip, destination.port⟩]⟩
  | failed {ip : IpAddress} {after : Nat} {cause : IoError}
      (passes : Passes hosts delay limit policy destination.host ip)
      (reaction : machine.react ⟨ip, destination.port⟩ = .fails after cause)
      (inTime : after ≤ limit) :
      Course hosts delay limit policy machine destination
        ⟨.error (.io ⟨ip, destination.port⟩ cause), delay + after, [⟨ip, destination.port⟩]⟩
  | unanswered {ip : IpAddress} (passes : Passes hosts delay limit policy destination.host ip)
      (quiet : (machine.react ⟨ip, destination.port⟩).QuietFor limit) :
      Course hosts delay limit policy machine destination
        ⟨.error (.timeout ⟨ip, destination.port⟩), delay + limit, [⟨ip, destination.port⟩]⟩

namespace Course

/-- There is a course for all that can happen. -/
theorem exists_course (hosts : List (String × IpAddress)) (delay limit : Nat) (policy : Bool)
    (machine : Machine) (destination : Destination) :
    ∃ run, Course hosts delay limit policy machine destination run := by
  by_cases late : limit < delay
  · exact ⟨_, .unresolved late⟩
  have soon : delay ≤ limit := Nat.not_lt.mp late
  by_cases known : destination.host ∈ hosts.map Prod.fst
  case neg => exact ⟨_, .unknown soon known⟩
  obtain ⟨ip, entry⟩ := HostTable.exists_lastEntry known
  by_cases rejects : policy = true ∧ ip.NamesLoopback
  · exact ⟨_, .rejected soon entry rejects.1 rejects.2⟩
  have passes : Passes hosts delay limit policy destination.host ip :=
    ⟨soon, entry, fun wary loops => rejects ⟨wary, loops⟩⟩
  by_cases quiet : (machine.react ⟨ip, destination.port⟩).QuietFor limit
  · exact ⟨_, .unanswered passes quiet⟩
  cases reaction : machine.react ⟨ip, destination.port⟩ with
  | accepts after =>
    rw [reaction] at quiet
    exact ⟨_, .connected passes reaction (Nat.not_lt.mp quiet)⟩
  | fails after cause =>
    rw [reaction] at quiet
    exact ⟨_, .failed passes reaction (Nat.not_lt.mp quiet)⟩
  | silent =>
    rw [reaction] at quiet
    exact absurd trivial quiet

theorem elapsed_le (h : Course hosts delay limit policy machine destination run) :
    run.elapsed ≤ 2 * limit := by
  cases h with
  | unresolved => show limit ≤ 2 * limit; omega
  | unknown soon | rejected soon => show delay ≤ 2 * limit; omega
  | @connected _ after passes _ inTime | @failed _ after _ passes _ inTime =>
    have soon := passes.soon
    show delay + after ≤ 2 * limit
    omega
  | unanswered passes =>
    have soon := passes.soon
    show delay + limit ≤ 2 * limit
    omega

end Course

theorem answer_ofTable_of_lastEntry {host : String} {ip : IpAddress}
    (entry : LastEntry hosts host ip) :
    ((Resolver.ofTable (.ofList hosts) delay).lookup host).answer = .ok ip := by
  simp only [Resolver.ofTable, entry.find?_ofList]

theorem connect_of_lastEntry {ip : IpAddress} (soon : delay ≤ limit)
    (entry : LastEntry hosts destination.host ip) :
    let connector : Connector := ⟨.ofTable (.ofList hosts) delay, policy, limit⟩
    connector.connect machine destination =
      if connector.rejects ip then ⟨.error (.loopback ip), delay, []⟩
      else connector.attempt machine ⟨ip, destination.port⟩ delay := by
  intro connector
  have resolved : connector.resolve destination.host = (.ok ip, delay) :=
    (resolve_eq soon).trans (congrArg (·, delay) (answer_ofTable_of_lastEntry entry))
  exact connect_of_resolve resolved

theorem connect_of_passes {ip : IpAddress}
    (passes : Passes hosts delay limit policy destination.host ip) :
    let connector : Connector := ⟨.ofTable (.ofList hosts) delay, policy, limit⟩
    connector.connect machine destination =
      connector.attempt machine ⟨ip, destination.port⟩ delay := by
  intro connector
  have allowed : ¬ connector.rejects ip = true := by
    rw [rejects_iff]
    exact fun ⟨wary, loops⟩ => passes.allowed wary loops
  rw [connect_of_lastEntry passes.soon passes.entry, if_neg allowed]

theorem Course.connect_eq (h : Course hosts delay limit policy machine destination run) :
    (⟨.ofTable (.ofList hosts) delay, policy, limit⟩ : Connector).connect machine destination =
      run := by
  cases h with
  | unresolved late =>
    have resolved : (⟨.ofTable (.ofList hosts) delay, policy, limit⟩ : Connector).resolve
        destination.host = (.error resolveTimedOut, limit) := if_pos late
    rw [connect, resolved]
    rfl
  | unknown soon absent =>
    rw [connect, resolve_eq soon]
    simp only [Resolver.ofTable, HostTable.find?_ofList_of_notMem absent]
  | @rejected ip soon entry wary loops =>
    have rejects : (⟨.ofTable (.ofList hosts) delay, policy, limit⟩ : Connector).rejects ip =
        true := rejects_iff.mpr ⟨wary, loops⟩
    rw [connect_of_lastEntry soon entry, if_pos rejects]
  | connected passes reaction inTime =>
    rw [connect_of_passes passes, attempt_of_accepts reaction inTime]
  | failed passes reaction inTime =>
    rw [connect_of_passes passes, attempt_of_fails reaction inTime]
  | unanswered passes quiet => rw [connect_of_passes passes, attempt_of_quiet quiet]

/-- A connector that is given a table of hosts keeps its policy and its limit. Its attempts to
connect end in the way, at the time and with the connections tried that follow from the table, the
policy and the limit, and in no other; they never take longer than twice the limit. -/
theorem connect_withResolver_iff_course (previous : Resolver) (policy : Bool) (limit : Nat)
    (hosts : List (String × IpAddress)) (delay : Nat) (machine : Machine)
    (destination : Destination) :
    let connector : Connector :=
      (⟨previous, policy, limit⟩ : Connector).withResolver (.ofTable (.ofList hosts) delay)
    connector = ⟨.ofTable (.ofList hosts) delay, policy, limit⟩ ∧
    (∀ run, connector.connect machine destination = run ↔
      Course hosts delay limit policy machine destination run) ∧
    (connector.connect machine destination).elapsed ≤ 2 * limit := by
  intro connector
  obtain ⟨run, course⟩ := Course.exists_course hosts delay limit policy machine destination
  have ended : connector.connect machine destination = run := course.connect_eq
  refine ⟨rfl, fun other => ⟨?_, fun h => h.connect_eq⟩, ?_⟩
  · rw [ended]
    rintro rfl
    exact course
  · rw [ended]
    exact course.elapsed_le

end Connector

end TunnelServer
