/-!
# The range of binary floating point

A decimal number that a text format reads as a 64-bit binary number is refused where it would round
to infinity. No floating point is computed here: both rules are stated on natural numbers.

* `Binary64.decimalOverflows`: the rule for a decimal that is rounded once.
* `Binary64.productOverflows`: the rule for a whole number and a power of ten that are rounded on
  their own and then multiplied.
-/

namespace ShiftReduce.Binary64

/-- The least number that rounds to infinity: half a unit above the largest finite number. -/
def overflowThreshold : Nat := Nat.pow 2 1024 - Nat.pow 2 970

/-- The nearest number with 53 significant bits. A tie goes to the even neighbour. -/
def round (n : Nat) : Nat :=
  let unit := Nat.pow 2 (n.log2 + 1 - 53)
  let quotient := n / unit
  let remainder := n % unit
  if unit < 2 * remainder ∨ (2 * remainder = unit ∧ quotient % 2 = 1) then (quotient + 1) * unit
  else quotient * unit

/-- Whether `significand * 10 ^ exponent` rounds to infinity. The number of digits decides except
    close to the threshold, so no large power is computed. -/
def decimalOverflows (significand : Nat) (exponent : Int) : Bool :=
  let digits : Int := (toString significand).length
  if significand = 0 then false
  else if digits + exponent > 310 then true
  else if digits + exponent < 300 then false
  else
    overflowThreshold * Nat.pow 10 (-exponent).toNat ≤ significand * Nat.pow 10 exponent.toNat

/-- Whether `significand`, rounded, times a power of ten, rounded, rounds to infinity. A number
    other than zero whose exponent is above 308 always counts as too large. -/
def productOverflows (significand : Nat) (exponent : Int) : Bool :=
  if exponent < 0 then false
  else if exponent > 308 then significand != 0
  else overflowThreshold ≤ round significand * round (Nat.pow 10 exponent.toNat)

end ShiftReduce.Binary64
