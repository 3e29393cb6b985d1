/-! # Arithmetic modulo a number

Powers are taken by squaring. Modulo a prime, the power with the exponent two below the prime is the
inverse.
-/

namespace TunnelServer.Modular

def subtract (modulus a b : Nat) : Nat := (a + (modulus - b % modulus)) % modulus

def power (modulus base exponent : Nat) : Nat :=
  if exponent = 0 then 1 % modulus
  else
    let root := power modulus (base * base % modulus) (exponent / 2)
    if exponent % 2 = 0 then root else root * base % modulus
termination_by exponent

def divide (prime a b : Nat) : Nat := a * power prime b (prime - 2) % prime

def bitLength (n : Nat) : Nat := if n = 0 then 0 else n.log2 + 1

end TunnelServer.Modular
