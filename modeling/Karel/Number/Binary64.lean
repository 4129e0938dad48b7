/-!
# Binary floating point

The only fractional number of a session is its speed, a 64-bit floating point number. A positive
finite one stands for `significand · 2 ^ exponent`. This module rounds fractions to such numbers and
takes them apart again; both ways, a value half-way between two results goes to the even one.
-/

namespace Karel.Number

/-- The quotient rounded to the nearest whole number, and to the even one of two. -/
def divideToNearest (numerator denominator : Nat) : Nat :=
  let quotient := numerator / denominator
  let twice := 2 * (numerator % denominator)
  if twice > denominator ∨ twice = denominator ∧ quotient % 2 = 1 then quotient + 1 else quotient

/-- The nearest whole number of the value `significand · 2 ^ exponent`. -/
def scaleToNearest (significand : Nat) (exponent : Int) : Nat :=
  if exponent < 0 then divideToNearest significand (1 <<< exponent.natAbs)
  else significand <<< exponent.toNat

namespace Binary64

/-- The bits of infinity. -/
def infinityBits : UInt64 := 0x7FF0000000000000

/-- The bits of the number that is not one. -/
def nanBits : UInt64 := 0x7FF8000000000000

/-- The exponent at which a positive fraction has a significand of 53 bits, or the least one. -/
def exponentOf (numerator denominator : Nat) : Int :=
  let guess : Int := (numerator.log2 : Int) - denominator.log2 - 53
  let reaches : Bool :=
    if guess + 53 < 0 then decide (denominator ≤ numerator <<< (guess + 53).natAbs)
    else decide (denominator <<< (guess + 53).toNat ≤ numerator)
  max (-1074) (if reaches then guess + 1 else guess)

/-- The bits of the number nearest to a positive fraction. -/
def nearestBits (numerator denominator : Nat) : UInt64 :=
  let exponent := exponentOf numerator denominator
  let significand :=
    if exponent < 0 then divideToNearest (numerator <<< exponent.natAbs) denominator
    else divideToNearest numerator (denominator <<< exponent.toNat)
  let bits := (exponent + 1074).toNat <<< 52 + significand
  if bits < infinityBits.toNat then .ofNat bits else infinityBits

/-- The significand and the exponent of a positive finite number, from its bits. -/
def decode (bits : UInt64) : Nat × Int :=
  let field : Nat := (bits.toNat >>> 52) % 2048
  let fraction : Nat := bits.toNat % (1 <<< 52)
  if field = 0 then (fraction, -1074) else ((1 <<< 52) + fraction, Int.ofNat field - 1075)

/-- The number of nanoseconds in a positive number of seconds, to the nearest. A clock counts the
seconds in 64 bits, and there is no answer if they are too many for it. Infinity, with bits that read
as `2 ^ 1024`, is too many. -/
def nanoseconds? (seconds : Float) : Option Nat :=
  let (significand, exponent) := decode seconds.toBits
  let nanoseconds := scaleToNearest (significand * 1000000000) exponent
  if nanoseconds < 1000000000 <<< 64 then some nanoseconds else none

end Binary64

end Karel.Number
