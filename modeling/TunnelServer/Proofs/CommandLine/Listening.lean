import Mathlib.Data.List.TakeDrop
import TunnelServer.CommandLine.Startup
import TunnelServer.Proofs.Network.LiteralHost

/-!
# The text of the address to listen on

A text with a colon is put in brackets before the port is written behind it, so the last colon is
always the one before the port. The text for a printed address is read as this address and the port,
and no two pairs of an address text and a port have the same text.
-/

namespace TunnelServer

namespace SocketAddress

variable {port text : List Char}

theorem splitPort_append (host : List Char) (h : ':' ∉ port) :
    splitPort (host ++ ':' :: port) = some (host, port) := by
  have digits : ∀ c ∈ port.reverse, (decide (c ≠ ':')) = true := by
    intro c hc
    rw [List.mem_reverse] at hc
    exact decide_eq_true fun same => h (same ▸ hc)
  have back : (host ++ ':' :: port).reverse = port.reverse ++ ':' :: host.reverse := by simp
  rw [splitPort, back, List.span_eq_takeWhile_dropWhile, List.takeWhile_append_of_pos digits,
    List.dropWhile_append_of_pos digits]
  simp

theorem colon_notMem_portCharacters (port : UInt16) : ':' ∉ portCharacters port :=
  V6.notMem_digits 10 (by decide) (by decide) (by decide) _

theorem readPort?_portCharacters (port : UInt16) : readPort? (portCharacters port) = some port := by
  have value : Numeral.read? 10 (portCharacters port) = some port.toNat :=
    Numeral.read?_digits (by decide) (by decide) port.toNat
  have small : port.toNat < 65536 := port.toNat_lt
  simp [readPort?, value, small, guard]

theorem portCharacters_injective {first second : UInt16}
    (h : portCharacters first = portCharacters second) : first = second := by
  have same := readPort?_portCharacters first
  rw [h, readPort?_portCharacters second] at same
  exact (Option.some.inj same).symm

/-- A text, in brackets if it holds a colon. -/
def shielded (text : List Char) : List Char := if ':' ∈ text then '[' :: text ++ [']'] else text

theorem shielded_of_mem (h : ':' ∈ text) : shielded text = '[' :: text ++ [']'] := if_pos h

theorem shielded_of_notMem (h : ':' ∉ text) : shielded text = text := if_neg h

theorem colon_mem_shielded : ':' ∈ shielded text ↔ ':' ∈ text := by
  by_cases h : ':' ∈ text
  · simp [shielded_of_mem h, h]
  · simp [shielded_of_notMem h]

theorem shielded_injective {first second : List Char} (h : shielded first = shielded second) :
    first = second := by
  have both : ':' ∈ first ↔ ':' ∈ second := by
    rw [← colon_mem_shielded, h, colon_mem_shielded]
  by_cases colon : ':' ∈ first
  · rw [shielded_of_mem colon, shielded_of_mem (both.mp colon)] at h
    simpa using h
  · rwa [shielded_of_notMem colon, shielded_of_notMem (mt both.mpr colon)] at h

/-- The printed form of an address and a port has this address in brackets if it holds a colon. -/
theorem characters_eq (address : SocketAddress) : address.characters =
    shielded address.ip.characters ++ ':' :: portCharacters address.port := by
  obtain ⟨ip, port⟩ := address
  cases ip with
  | v4 ip =>
    have plain : ':' ∉ ip.characters :=
      (V4.Spelled.of_read? (V4.read?_characters ip)).notMem (by decide) (by decide)
    simp only [characters, IpAddress.characters, shielded_of_notMem plain]
  | v6 ip =>
    have colon : ':' ∈ ip.characters :=
      V6.colon_mem_of_read? (V6.printed_iff.mpr rfl).read?_eq
    simp [characters, IpAddress.characters, shielded_of_mem colon]

end SocketAddress

namespace ListenAddress

theorem read?_characters (address : SocketAddress) :
    read? address.characters = some ⟨address, 0⟩ := by
  have port := SocketAddress.readPort?_portCharacters address.port
  have split := SocketAddress.splitPort_append (SocketAddress.shielded address.ip.characters)
    (SocketAddress.colon_notMem_portCharacters address.port)
  rw [← SocketAddress.characters_eq] at split
  obtain ⟨ip, number⟩ := address
  cases ip with
  | v4 ip =>
    have spelled := V4.Spelled.of_read? (V4.read?_characters ip)
    have host : SocketAddress.shielded ip.characters = ip.characters :=
      SocketAddress.shielded_of_notMem (spelled.notMem (by decide) (by decide))
    have bare : SocketAddress.unbracket? ip.characters = none :=
      SocketAddress.unbracket?_of_notMem (spelled.notMem (by decide) (by decide))
    simp only [IpAddress.characters, host] at split
    simp [read?, split, port, bare, V4.read?_characters]
  | v6 ip =>
    have inner : V6.read? ip.characters = some ip := (V6.printed_iff.mpr rfl).read?_eq
    have foreign : V6.Foreign '%' := ⟨by decide, by decide, by decide⟩
    have host : SocketAddress.shielded ip.characters = '[' :: ip.characters ++ [']'] :=
      SocketAddress.shielded_of_mem (V6.colon_mem_of_read? inner)
    have zoned : readZoned? ip.characters = some (ip, 0) := by
      have plain : ∀ c ∈ ip.characters, decide (c ≠ '%') = true := by
        intro c hc
        exact decide_eq_true fun same => foreign.notMem inner (same ▸ hc)
      have whole : ip.characters.span (· ≠ '%') = (ip.characters, []) := by
        rw [List.span_eq_takeWhile_dropWhile, List.takeWhile_eq_self_iff.mpr plain,
          List.dropWhile_eq_nil_iff.mpr plain]
      rw [readZoned?, whole]
      simp [inner]
    have opened : SocketAddress.unbracket? ('[' :: (ip.characters ++ [']'])) =
        some ip.characters := SocketAddress.unbracket?_eq_some_iff.mpr rfl
    simp only [IpAddress.characters, host] at split
    simp [read?, split, port, opened, zoned]

end ListenAddress

namespace ServerConfig

theorem toList_listenAddress (config : ServerConfig) : config.listenAddress.toList =
    SocketAddress.shielded config.bind.toList ++
      ':' :: SocketAddress.portCharacters config.port := by
  by_cases colon : ':' ∈ config.bind.toList
  · simp [listenAddress, colon, SocketAddress.shielded_of_mem, SocketAddress.portCharacters,
      Numeral.digits]
  · simp [listenAddress, colon, SocketAddress.shielded_of_notMem, SocketAddress.portCharacters,
      Numeral.digits]

/-- Where a configuration has a printed address to listen on, the text that is looked up is the
printed form of this address and the port, and it is read as just these. Whatever the addresses are,
configurations with the same text have the same address and the same port. -/
theorem listenAddress_unambiguous :
    (∀ (config : ServerConfig) (ip : IpAddress), config.bind = ip.render →
      config.listenAddress = (⟨ip, config.port⟩ : SocketAddress).render ∧
      ListenAddress.read? config.listenAddress.toList = some ⟨⟨ip, config.port⟩, 0⟩ ∧
      ∀ machine, CommandLine.resolveListen machine config.listenAddress =
        .ok ⟨⟨ip, config.port⟩, 0⟩) ∧
    ∀ first second : ServerConfig, first.listenAddress = second.listenAddress →
      first.bind = second.bind ∧ first.port = second.port := by
  constructor
  · intro config ip printed
    have form : config.listenAddress.toList =
        (⟨ip, config.port⟩ : SocketAddress).characters := by
      rw [toList_listenAddress, printed, SocketAddress.characters_eq, IpAddress.render,
        String.toList_ofList]
    have read : ListenAddress.read? config.listenAddress.toList =
        some ⟨⟨ip, config.port⟩, 0⟩ := by
      rw [form, ListenAddress.read?_characters]
    refine ⟨?_, read, fun machine => ?_⟩
    · rw [SocketAddress.render, ← form, String.ofList_toList]
    · rw [CommandLine.resolveListen, read]
  · intro first second same
    have split (config : ServerConfig) : SocketAddress.splitPort config.listenAddress.toList =
        some (SocketAddress.shielded config.bind.toList,
          SocketAddress.portCharacters config.port) := by
      rw [toList_listenAddress]
      exact SocketAddress.splitPort_append _ (SocketAddress.colon_notMem_portCharacters config.port)
    have parts := split first
    rw [same, split second, Option.some.injEq, Prod.mk.injEq] at parts
    obtain ⟨bind, port⟩ := parts
    exact ⟨String.toList_injective (SocketAddress.shielded_injective bind.symm),
      SocketAddress.portCharacters_injective port.symm⟩

/-- A configuration that listens on an IPv6 address that stands for an IPv4 address. -/
def onMapped : ServerConfig := { standard with bind := "::ffff:10.0.0.1", port := 8443 }

theorem listenAddress_unambiguous_onMapped :
    ListenAddress.read? onMapped.listenAddress.toList =
      some ⟨⟨.v6 (.ofV4 ⟨10, 0, 0, 1⟩), 8443⟩, 0⟩ ∧
    ∀ bind port, ({ standard with bind, port } : ServerConfig).listenAddress =
      "[::ffff:10.0.0.1]:8443" → bind = "::ffff:10.0.0.1" ∧ port = 8443 := by
  obtain ⟨reads, distinct⟩ := listenAddress_unambiguous
  have printed : onMapped.bind = (IpAddress.v6 (.ofV4 ⟨10, 0, 0, 1⟩)).render := by decide
  exact ⟨(reads onMapped _ printed).2.1, fun bind port same => distinct _ onMapped same⟩

end ServerConfig

end TunnelServer
