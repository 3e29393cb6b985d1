import TunnelServer.Network.Connector
import TunnelServer.Proofs.Address.Literal

/-!
# Which addresses a connector keeps away from

The loopback addresses are those of 127.0.0.0/8, ::1, and the IPv6 addresses that stand for one of
the former. A connector that rejects them connects to none of them, whatever the resolver answers.
The unspecified addresses, which reach this machine as well, are not among them.
-/

namespace TunnelServer

namespace IpAddress

/-- The loopback addresses, in any form. -/
inductive NamesLoopback : IpAddress → Prop where
  | v4 {b c d : UInt8} : NamesLoopback (.v4 ⟨127, b, c, d⟩)
  | v6 : NamesLoopback (.v6 .loopback)
  | mapped {b c d : UInt8} : NamesLoopback (.v6 (.ofV4 ⟨127, b, c, d⟩))

/-- The unspecified addresses, in any form. -/
inductive IsUnspecified : IpAddress → Prop where
  | v4 : IsUnspecified (.v4 ⟨0, 0, 0, 0⟩)
  | v6 : IsUnspecified (.v6 .unspecified)
  | mapped : IsUnspecified (.v6 (.ofV4 ⟨0, 0, 0, 0⟩))

/-- A connection to such an address ends at the machine that it starts from. -/
def ReachesHost (ip : IpAddress) : Prop := ip.NamesLoopback ∨ ip.IsUnspecified

theorem isLoopback_v4_iff {address : V4} :
    address.isLoopback = true ↔ ∃ b c d, address = ⟨127, b, c, d⟩ := by
  obtain ⟨a, b, c, d⟩ := address
  simp [V4.isLoopback]

/-- The check finds the loopback addresses in all forms, and no other address. -/
theorem isLoopback_iff (ip : IpAddress) : ip.isLoopback = true ↔ ip.NamesLoopback := by
  cases ip with
  | v4 address =>
    show address.isLoopback = true ↔ _
    rw [isLoopback_v4_iff]
    constructor
    · rintro ⟨b, c, d, rfl⟩
      exact .v4
    · rintro ⟨⟩
      exact ⟨_, _, _, rfl⟩
  | v6 address =>
    cases hm : address.toV4? with
    | some inner =>
      have same : (IpAddress.v6 address).isLoopback = inner.isLoopback := by
        simp only [isLoopback, canonical, hm, isPlainLoopback]
      rw [same, isLoopback_v4_iff]
      obtain rfl := V6.toV4?_eq_some_iff.mp hm
      constructor
      · rintro ⟨b, c, d, rfl⟩
        exact .mapped
      · intro h
        generalize hv : V6.ofV4 inner = mapped at h hm
        cases h with
        | v6 => cases hm
        | mapped =>
          obtain rfl := Option.some.inj (hm.symm.trans (V6.toV4?_eq_some_iff.mpr rfl))
          exact ⟨_, _, _, rfl⟩
    | none =>
      have same : (IpAddress.v6 address).isLoopback = decide (address = .loopback) := by
        simp only [isLoopback, canonical, hm, isPlainLoopback]
      rw [same, decide_eq_true_iff]
      constructor
      · rintro rfl
        exact .v6
      · rintro ⟨⟩
        · rfl
        · rw [V6.toV4?_eq_some_iff.mpr rfl] at hm
          cases hm

theorem IsUnspecified.isLoopback_eq {ip : IpAddress} (h : ip.IsUnspecified) :
    ip.isLoopback = false := by
  cases h <;> decide

end IpAddress

namespace Connector

variable {connector : Connector} {machine : Machine} {destination : Destination}

@[simp] theorem attempts_attempt (address : SocketAddress) (start : Nat) :
    (connector.attempt machine address start).attempts = [address] := by
  simp only [attempt]
  split
  · rfl
  · split <;> rfl
  · split <;> rfl

theorem peer_of_attempt {address : SocketAddress} {start : Nat} {connection : Connection}
    (h : (connector.attempt machine address start).result = .ok connection) :
    connection.peer = address := by
  simp only [attempt] at h
  split at h
  · cases h
  · split at h <;> cases h
    rfl
  · split at h <;> cases h

theorem rejects_iff {ip : IpAddress} :
    connector.rejects ip = true ↔ connector.rejectLoopback = true ∧ ip.NamesLoopback := by
  rw [rejects, Bool.and_eq_true, IpAddress.isLoopback_iff]

theorem resolve_eq {host : String}
    (soon : (connector.resolver.lookup host).delay ≤ connector.connectTimeout) :
    connector.resolve host =
      ((connector.resolver.lookup host).answer, (connector.resolver.lookup host).delay) :=
  if_neg (Nat.not_lt.mpr soon)

theorem connect_of_resolve {ip : IpAddress} {time : Nat}
    (h : connector.resolve destination.host = (.ok ip, time)) :
    connector.connect machine destination =
      if connector.rejects ip then ⟨.error (.loopback ip), time, []⟩
      else connector.attempt machine ⟨ip, destination.port⟩ time := by
  rw [connect, h]

/-- A connector tries at most one connection: to the address that the resolver gave in time for the
host that was asked for, unless its policy rejects it. -/
theorem attempts_connect : (connector.connect machine destination).attempts =
    match (connector.resolve destination.host).1 with
    | .ok ip => if connector.rejects ip then [] else [⟨ip, destination.port⟩]
    | .error _ => [] := by
  unfold connect
  rcases connector.resolve destination.host with ⟨cause | ip, time⟩
  · rfl
  · by_cases rejected : connector.rejects ip = true
    · simp only [rejected, if_true]
    · simp only [rejected, if_false, Bool.false_eq_true, attempts_attempt]

theorem mem_attempts_connect_iff {address : SocketAddress} :
    address ∈ (connector.connect machine destination).attempts ↔
      (connector.resolve destination.host).1 = .ok address.ip ∧
      connector.rejects address.ip = false ∧ address.port = destination.port := by
  rw [attempts_connect]
  cases (connector.resolve destination.host).1 with
  | error cause => simp
  | ok ip =>
    by_cases rejected : connector.rejects ip = true
    · simp only [rejected, if_true, List.not_mem_nil, Except.ok.injEq, false_iff]
      rintro ⟨rfl, allowed, -⟩
      rw [rejected] at allowed
      cases allowed
    · simp only [rejected, if_false, Bool.false_eq_true, List.mem_singleton, Except.ok.injEq]
      constructor
      · rintro rfl
        exact ⟨rfl, eq_false_of_ne_true rejected, rfl⟩
      · rintro ⟨rfl, -, same⟩
        rw [← same]

theorem length_attempts_connect_le :
    (connector.connect machine destination).attempts.length ≤ 1 := by
  rw [attempts_connect]
  split
  · split
    · exact Nat.zero_le 1
    · exact Nat.le_refl 1
  · exact Nat.zero_le 1

theorem answer_of_resolve {host : String} {ip : IpAddress}
    (h : (connector.resolve host).1 = .ok ip) : (connector.resolver.lookup host).answer = .ok ip := by
  simp only [resolve] at h
  split at h
  · cases h
  · exact h

theorem not_namesLoopback_of_rejects_eq {ip : IpAddress} (allowed : connector.rejects ip = false)
    (rejects : connector.rejectLoopback = true) : ¬ ip.NamesLoopback := by
  rw [Connector.rejects, rejects, Bool.true_and] at allowed
  intro loops
  rw [(IpAddress.isLoopback_iff ip).mpr loops] at allowed
  cases allowed

theorem peer_mem_attempts {connection : Connection}
    (h : (connector.connect machine destination).result = .ok connection) :
    connection.peer ∈ (connector.connect machine destination).attempts := by
  simp only [connect] at h ⊢
  split at h
  · cases h
  · split at h
    · cases h
    · rename_i allowed
      rw [if_neg allowed, attempts_attempt, List.mem_singleton]
      exact peer_of_attempt h

/-- A connector that rejects loopback addresses tries to reach this machine, and reaches it, exactly
through an unspecified address: where the resolver answers with one in time. -/
theorem reachesHost_iff_isUnspecified (rejects : connector.rejectLoopback = true) :
    ((∃ address ∈ (connector.connect machine destination).attempts, address.ip.ReachesHost) ↔
      ∃ ip, (connector.resolve destination.host).1 = .ok ip ∧ ip.IsUnspecified) ∧
    ∀ connection, (connector.connect machine destination).result = .ok connection →
      connection.peer ∈ (connector.connect machine destination).attempts := by
  refine ⟨⟨?_, ?_⟩, fun connection => peer_mem_attempts⟩
  · rintro ⟨address, tried, reaches⟩
    obtain ⟨answer, allowed, -⟩ := mem_attempts_connect_iff.mp tried
    have unlooped := not_namesLoopback_of_rejects_eq allowed rejects
    exact ⟨address.ip, answer, reaches.resolve_left unlooped⟩
  · rintro ⟨ip, answer, unspecified⟩
    have allowed : connector.rejects ip = false := by
      rw [Connector.rejects, unspecified.isLoopback_eq, Bool.and_false]
    refine ⟨⟨ip, destination.port⟩, ?_, .inr unspecified⟩
    exact mem_attempts_connect_iff.mpr ⟨answer, allowed, rfl⟩

/-- A machine on which every address accepts connections at once. -/
def openMachine : Machine := { Machine.isolated with react := fun _ => .accepts 0 }

/-- What the system answers, and loopback addresses rejected. -/
def cautious : Connector := ⟨.system openMachine.directory, true, 10000⟩

theorem reachesHost_iff_isUnspecified_cautious :
    (∃ address ∈ (cautious.connect openMachine ⟨"[::]", 80⟩).attempts, address.ip.ReachesHost) ∧
      ¬ ∃ address ∈ (cautious.connect openMachine ⟨"::ffff:127.0.0.1", 80⟩).attempts,
        address.ip.ReachesHost := by
  constructor
  · refine (reachesHost_iff_isUnspecified rfl).1.mpr ⟨.v6 .unspecified, ?_, .v6⟩
    rfl
  · rw [(reachesHost_iff_isUnspecified rfl).1]
    rintro ⟨ip, answer, unspecified⟩
    have mapped : (cautious.resolve "::ffff:127.0.0.1").1 = .ok (.v6 (.ofV4 ⟨127, 0, 0, 1⟩)) := rfl
    obtain rfl := Except.ok.inj (mapped.symm.trans answer)
    have loops := unspecified.isLoopback_eq
    revert loops
    decide

/-- The host 0.0.0.0 leads past the check to this machine. -/
theorem cautious_connects_to_unspecified :
    (cautious.connect openMachine ⟨"0.0.0.0", 80⟩).result =
        .ok ⟨⟨.v4 ⟨0, 0, 0, 0⟩, 80⟩, true⟩ ∧
      IpAddress.ReachesHost (.v4 ⟨0, 0, 0, 0⟩) :=
  ⟨rfl, .inr .v4⟩

end Connector

end TunnelServer
