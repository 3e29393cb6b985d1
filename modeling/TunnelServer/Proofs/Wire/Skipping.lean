import TunnelServer.Proofs.Handshake.Hearing
import TunnelServer.Proofs.Stream.Pieces
import TunnelServer.Wire.Field

/-!
# Skipping a string

A string that is skipped is copied away in pieces. Its length was read within the deadline, so this
is the same as to read its bytes and to drop them.
-/

namespace TunnelServer

namespace Wire

variable {deadline : Option Nat} {reader : Reader}

theorem skipBytes_eq_readBytes (wanted : Nat) (soon : deadline.any (· < reader.now) = false) :
    skipBytes deadline wanted reader = readBytes deadline wanted .unexpectedEnd reader := by
  rw [skipBytes, readBytes, Source.copyAway_eq_takeExactly _ soon]

theorem any_lt_of_readBytes {wanted : Nat} {short : IoError} {bytes : List UInt8} {after : Reader}
    (some : 0 < wanted) (h : readBytes deadline wanted short reader = (.ok bytes, after)) :
    deadline.any (· < after.now) = false := by
  obtain ⟨read, rfl⟩ := Prod.mk.inj h
  split at read
  case h_1 complete => exact Source.any_lt_of_gather some complete
  all_goals cases read

theorem any_lt_of_readU16 {length : UInt16} {after : Reader}
    (h : readU16 deadline reader = (.ok length, after)) :
    deadline.any (· < after.now) = false := by
  rcases read : readBytes deadline 2 .unexpectedEnd reader with ⟨halt | bytes, behind⟩
  · have stop : readU16 deadline reader = (.error halt, behind) := bind_of_error read
    cases stop.symm.trans h
  · have onwards : readU16 deadline reader = (.ok (decodeU16 bytes), behind) := bind_of_ok read
    obtain ⟨-, rfl⟩ := Prod.mk.inj (onwards.symm.trans h)
    exact any_lt_of_readBytes Nat.two_pos read

theorem skipString_eq (deadline : Option Nat) :
    skipString deadline = (do
      let length ← readU16 deadline
      let _ ← readBytes deadline length.toNat .unexpectedEnd
      return length.toNat) := by
  funext reader
  rcases read : readU16 deadline reader with ⟨halt | length, after⟩
  · exact (bind_of_error read).trans (bind_of_error read).symm
  · have same := skipBytes_eq_readBytes length.toNat (any_lt_of_readU16 read)
    rw [skipString, bind_of_ok read, bind_of_ok read]
    simp only [bind, ExceptT.bind, ExceptT.mk, StateT.bind, same]

end Wire

end TunnelServer
