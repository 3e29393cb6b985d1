import TunnelServer.Address.Ip
import TunnelServer.Io.Error
import TunnelServer.Time

/-! # Resolving hosts

A resolver answers each host after some time with an address or the reason why there is none. Two
resolvers are given: a fixed table of exact names, and the system's, which first takes the host for
an address, perhaps in brackets, and then asks the system, which knows the loose numeric form.
-/

namespace TunnelServer

/-- The answer to a host, and how long it takes. -/
structure Lookup where
  delay : Nat
  answer : Except IoError IpAddress

structure Resolver where
  lookup : String → Lookup

/-- A table of exact names, the newest entry first. -/
structure HostTable where
  entries : List (String × IpAddress)

namespace HostTable

def empty : HostTable := ⟨[]⟩

/-- Adds a name. It replaces an earlier entry for the same name. -/
def withHost (table : HostTable) (host : String) (ip : IpAddress) : HostTable :=
  ⟨(host, ip) :: table.entries⟩

def ofList (hosts : List (String × IpAddress)) : HostTable :=
  hosts.foldl (fun table (host, ip) => table.withHost host ip) empty

/-- The newest entry for exactly this name. -/
def find? (table : HostTable) (host : String) : Option IpAddress := table.entries.lookup host

theorem find?_withHost (table : HostTable) (host name : String) (ip : IpAddress) :
    (table.withHost host ip).find? name = if name = host then some ip else table.find? name := by
  simp only [find?, withHost, List.lookup_cons]
  by_cases h : name = host
  · simp [h]
  · simp [h, beq_false_of_ne h]

end HostTable

namespace Resolver

/-- Answers from a table, after a fixed time. -/
def ofTable (table : HostTable) (delay : Nat) : Resolver where
  lookup host := {
    delay
    answer :=
      match table.find? host with
      | some ip => .ok ip
      | none => .error (.because .notFound ("no address for " ++ host)) }

def withoutBrackets (host : List Char) : List Char :=
  (SocketAddress.unbracket? host).getD host

def literal? (host : String) : Option IpAddress :=
  IpAddress.read? (withoutBrackets host.toList)

/-- What the system says about a host: it knows the loose numeric form and leaves other names to a
directory. -/
def systemAnswer (directory : String → Except IoError IpAddress) (host : String) :
    Except IoError IpAddress :=
  if '\x00' ∈ host.toList then .error .zeroByteInName
  else
    match V4.readLoose? host.toList with
    | some address => .ok (.v4 address)
    | none => if host.isEmpty then .error .nameNotKnown else directory host

/-- Takes a host for an address if it spells one, and else asks the system. -/
def system (directory : String → Except IoError IpAddress) : Resolver where
  lookup host := {
    delay := 0
    answer :=
      match literal? host with
      | some ip => .ok ip
      | none => systemAnswer directory host }

end Resolver

end TunnelServer
