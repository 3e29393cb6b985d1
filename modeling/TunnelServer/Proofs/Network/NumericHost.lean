import TunnelServer.Proofs.Network.LiteralHost
import TunnelServer.Proofs.Network.Loopback

/-!
# Hosts that name an IPv4 address

A host may name an IPv4 address in the loose numeric form or by a literal of the IPv6 address that
stands for it, perhaps in brackets. The system's resolver finds the address behind each of these
names, so no spelling leads past the check for loopback addresses.
-/

namespace TunnelServer

/-- The names of an IPv4 address, with the address that each of them is resolved to. -/
inductive V4.Names (address : V4) : List Char → IpAddress → Prop where
  | spelled {text : List Char} (h : address.Spelled text) : Names address text (.v4 address)
  | literal {text : List Char} (h : V6.read? text = some (.ofV4 address)) :
      Names address text (.v6 (.ofV4 address))
  | bracketed {text : List Char} (h : V6.read? text = some (.ofV4 address)) :
      Names address ('[' :: text ++ [']']) (.v6 (.ofV4 address))

theorem V4.Names.isLoopback_eq {address : V4} {text : List Char} {ip : IpAddress}
    (h : address.Names text ip) : ip.isLoopback = decide (address.a = 127) := by
  have stands : (V6.ofV4 address).toV4? = some address := V6.toV4?_eq_some_iff.mpr rfl
  cases h with
  | spelled => rfl
  | literal | bracketed =>
    simp only [IpAddress.isLoopback, IpAddress.canonical, stands, IpAddress.isPlainLoopback]
    rfl

namespace Resolver

variable {text : List Char} {host : String} {address : V4} {ip : IpAddress}
  {directory : String → Except IoError IpAddress}

theorem eq_of_literal?_spelled (spelled : address.Spelled host.toList)
    (h : literal? host = some ip) : ip = .v4 address := by
  have bare : '[' ∉ host.toList := spelled.notMem (by decide) (by decide)
  rw [literal?, withoutBrackets_eq bare] at h
  exact IpAddress.eq_of_spelled spelled h

theorem systemAnswer_spelled (spelled : address.Spelled host.toList) :
    systemAnswer directory host = .ok (.v4 address) := by
  have printable : '\x00' ∉ host.toList := spelled.notMem (by decide) (by decide)
  rw [systemAnswer, if_neg printable, V4.readLoose?_eq_some_iff.mpr spelled]

theorem literal?_of_encloses {address : V6} (h : V6.read? text = some address)
    (encloses : Encloses text host.toList) : literal? host = some (.v6 address) :=
  literal?_eq_some_iff.mpr ⟨text, encloses, IpAddress.read?_of_v6 h⟩

/-- Every name of an address is resolved to what it names. -/
theorem answer_of_names (h : address.Names host.toList ip) :
    ((system directory).lookup host).answer = .ok ip := by
  have literal {found : IpAddress} (hl : literal? host = some found) :
      ((system directory).lookup host).answer = .ok found := by
    simp only [system, hl]
  generalize ht : host.toList = text at h
  cases h with
  | spelled spelled =>
    subst ht
    cases hl : literal? host with
    | some found =>
      rw [literal hl, eq_of_literal?_spelled spelled hl]
    | none =>
      simp only [system, hl]
      exact systemAnswer_spelled spelled
  | literal read => exact literal (literal?_of_encloses read (ht ▸ .bare))
  | bracketed read => exact literal (literal?_of_encloses read (ht ▸ .bracketed))

end Resolver

namespace Connector

variable {connector : Connector} {machine : Machine} {destination : Destination}

theorem attempt_ne_loopback (connector : Connector) (address : SocketAddress) (start : Nat)
    (ip : IpAddress) :
    (connector.attempt machine address start).result ≠ .error (.loopback ip) := by
  simp only [attempt]
  split
  · simp
  · split <;> simp
  · split <;> simp

/-- Whatever name of an IPv4 address a host is, it is resolved to this address, or to the IPv6
address that stands for it; whoever reads it, as a literal or in the loose form, reads the same. So
a connector that rejects loopback addresses turns down exactly the names of 127.0.0.0/8, and tries
no connection for them. The literal with the dotted form is one of the names. -/
theorem numeric_hosts_meet_policy (directory : String → Except IoError IpAddress)
    (machine : Machine) (limit : Nat) (port : UInt16) (address : V4) :
    address.Names (V6.mappedCharacters address) (.v6 (.ofV4 address)) ∧
    address.Names ('[' :: V6.mappedCharacters address ++ [']']) (.v6 (.ofV4 address)) ∧
    ∀ host ip, address.Names host.toList ip →
      ((Resolver.system directory).lookup host).answer = .ok ip ∧
      (address.Spelled host.toList → Resolver.systemAnswer directory host = .ok ip ∧
        ∀ found, Resolver.literal? host = some found → found = ip) ∧
      let run := (⟨.system directory, true, limit⟩ : Connector).connect machine ⟨host, port⟩
      (address.a = 127 → run.result = .error (.loopback ip) ∧ run.attempts = []) ∧
      (address.a ≠ 127 → ∀ other, run.result ≠ .error (.loopback other)) := by
  have read := V6.read?_mappedCharacters address
  refine ⟨.literal read, .bracketed read, fun host ip named => ?_⟩
  have answer : ((Resolver.system directory).lookup host).answer = .ok ip :=
    Resolver.answer_of_names named
  refine ⟨answer, fun spelled => ?_, ?_⟩
  · have same : (.ok ip : Except IoError IpAddress) = .ok (.v4 address) :=
      answer.symm.trans (Resolver.answer_of_names (.spelled spelled))
    obtain rfl := Except.ok.inj same
    exact ⟨Resolver.systemAnswer_spelled spelled,
      fun found => Resolver.eq_of_literal?_spelled spelled⟩
  · intro run
    let wary : Connector := ⟨.system directory, true, limit⟩
    have resolved : wary.resolve host = (.ok ip, 0) :=
      (resolve_eq (Nat.zero_le limit)).trans (congrArg (·, 0) answer)
    have ended : run = if wary.rejects ip then ⟨.error (.loopback ip), 0, []⟩
        else wary.attempt machine ⟨ip, port⟩ 0 := connect_of_resolve resolved
    have policy : wary.rejects ip = decide (address.a = 127) := by
      rw [rejects, Bool.true_and, named.isLoopback_eq]
    rw [ended, policy]
    constructor
    · intro loops
      simp [loops]
    · intro outside
      simpa [outside] using wary.attempt_ne_loopback ⟨ip, port⟩ 0

theorem spelled_hexadecimal : (⟨127, 0, 0, 9⟩ : V4).Spelled "0X7f.011".toList :=
  V4.readLoose?_eq_some_iff.mp rfl

theorem numeric_hosts_meet_policy_hexadecimal :
    (⟨127, 0, 0, 9⟩ : V4).Names "0X7f.011".toList (.v4 ⟨127, 0, 0, 9⟩) ∧
      (cautious.connect openMachine ⟨"0X7f.011", 80⟩).attempts = [] := by
  have named : (⟨127, 0, 0, 9⟩ : V4).Names "0X7f.011".toList (.v4 ⟨127, 0, 0, 9⟩) :=
    .spelled spelled_hexadecimal
  obtain ⟨-, -, meets⟩ :=
    numeric_hosts_meet_policy openMachine.directory openMachine 10000 80 ⟨127, 0, 0, 9⟩
  exact ⟨named, ((meets "0X7f.011" _ named).2.2.1 rfl).2⟩

end Connector

end TunnelServer
