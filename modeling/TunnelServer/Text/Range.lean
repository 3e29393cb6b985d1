/-! # Ranges of code points

Classes of characters are listed as ranges of code points with both ends included.
-/

namespace TunnelServer.Text

def inRanges (ranges : List (Nat × Nat)) (n : Nat) : Bool :=
  ranges.any fun (first, last) => first ≤ n ∧ n ≤ last

end TunnelServer.Text
