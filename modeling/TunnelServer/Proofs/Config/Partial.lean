import TunnelServer.Proofs.Config.RoundTrip

/-!
# Partial configurations

A document may hold any of the fields of a configuration, in any order, among keys and sections that
mean nothing. The fields that it holds have the values that it gives them, and all others have their
standard values, whether the field alone is missing or a section with it.
-/

namespace TunnelServer

open Toml (Entries Value)

/-! ## The fields that are kept -/

/-- A set of fields of a configuration. The time limits are in it one by one, so it does not matter
what it says of their section. -/
structure Selection where
  server : ServerField → Bool
  timeouts : TimeoutField → Bool
  logging : LoggingField → Bool

/-- Of the fields of a section, entries hold those that are needed, and what they hold fits. There
may be any number of other entries. -/
structure Holds {field : Type} (name : field → String) (needed : field → Prop)
    (fits : field → Value → Prop) (entries : Entries) : Prop where
  present : ∀ f, needed f → name f ∈ entries.map Prod.fst
  fitting : ∀ f value, (name f, value) ∈ entries → fits f value

/-- A section that is written as a table of any kind. -/
inductive IsTable (holds : Entries → Prop) : Value → Prop where
  | intro (kind : Toml.TableKind) {entries : Entries} (h : holds entries) :
      IsTable holds (.table kind entries)

/-- Exactly the chosen fields are there, with the given values. -/
def HoldsChosen {field : Type} (name : field → String) (value : field → Value)
    (chosen : field → Bool) : Entries → Prop :=
  Holds name (fun f => chosen f = true) fun f found => chosen f = true ∧ found = value f

def TimeoutConfig.HeldBy (given : TimeoutConfig) : (TimeoutField → Bool) → Entries → Prop :=
  HoldsChosen TimeoutField.name given.value

def LoggingConfig.HeldBy (given : LoggingConfig) : (LoggingField → Bool) → Entries → Prop :=
  HoldsChosen LoggingField.name given.value

namespace Selection

/-- The fields of the server's section that a document must have; the time limits have a section in
it, which is needed for any of them. -/
def NeedsServerField (chosen : Selection) : ServerField → Prop
  | .timeouts => ∃ f, chosen.timeouts f = true
  | f => chosen.server f = true

def Needs (chosen : Selection) : Section → Prop
  | .server => ∃ f, chosen.NeedsServerField f
  | .logging => ∃ f, chosen.logging f = true

end Selection

def ServerConfig.Fits (given : ServerConfig) (chosen : Selection) : ServerField → Value → Prop
  | .timeouts, value => IsTable (given.timeouts.HeldBy chosen.timeouts) value
  | f, value => chosen.server f = true ∧ value = given.value f

def ServerConfig.HeldBy (given : ServerConfig) (chosen : Selection) : Entries → Prop :=
  Holds ServerField.name chosen.NeedsServerField (given.Fits chosen)

def Config.Fits (given : Config) (chosen : Selection) : Section → Value → Prop
  | .server => IsTable (given.server.HeldBy chosen)
  | .logging => IsTable (given.logging.HeldBy chosen.logging)

/-- The entries of a document hold exactly the chosen fields in their sections, with the given
values. -/
def Config.HeldBy (given : Config) (chosen : Selection) : Entries → Prop :=
  Holds Section.name chosen.Needs (given.Fits chosen)

/-! ## Reading a section -/

section Entries

variable {field settings : Type} {fields : List field} {name : field → String}
  {assign : settings → field → Value → Config.Fit settings} {keeping : (field → Bool) → settings}
  {entries : Entries}

variable [DecidableEq field]

end Entries

namespace Holds

variable {field : Type} {name : field → String} {needed : field → Prop}
  {fits : field → Value → Prop} {entries : Entries} {f : field}

end Holds

namespace Config

section Whole

variable {given : Config} {chosen : Selection} {entries : Entries}

end Whole

end Config

end TunnelServer
