/-! # Directions

A tunnel carries bytes from the client to the destination and back.
-/

namespace TunnelServer

/-- One of the two directions of a tunnel. -/
inductive Direction where
  | clientToDestination
  | destinationToClient
deriving DecidableEq, Repr

namespace Direction

def opposite : Direction → Direction
  | clientToDestination => destinationToClient
  | destinationToClient => clientToDestination

def sourceName : Direction → String
  | clientToDestination => "client"
  | destinationToClient => "destination"

def sinkName (direction : Direction) : String := direction.opposite.sourceName

def label (direction : Direction) : String :=
  direction.sourceName ++ "->" ++ direction.sinkName

theorem opposite_ne (direction : Direction) : direction.opposite ≠ direction := by
  cases direction <;> decide

end Direction

end TunnelServer
