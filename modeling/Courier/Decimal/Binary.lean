/-
  This file defines the binary64 numbers by their bits: a
  sign, a significand and a power of two.

  Key definitions include:
    * `Binary`
    * `Binary.isNegative`
    * `Binary.significand`
    * `Binary.exponent`
-/

namespace Courier

/- A binary64 number, given by its bits. -/
structure Binary where
  bits : UInt64
  deriving DecidableEq, Repr

namespace Binary

/- The number that a machine float holds. -/
def ofFloat
    (x : Float) : Binary :=
  ⟨x.toBits⟩

/- The sign bit, two to the 63rd. -/
def signBit : Nat :=
  9223372036854775808

/- How many values the fraction has, two to the 52nd. -/
def fractionCount : Nat :=
  4503599627370496

/- How many values the exponent has, two to the 11th. -/
def exponentCount : Nat :=
  2048

/- Whether the sign bit is set. -/
def isNegative
    (b : Binary) : Bool :=
  decide (signBit ≤ b.bits.toNat)

/- The eleven bits of the exponent. -/
def exponentField
    (b : Binary) : Nat :=
  b.bits.toNat / fractionCount % exponentCount

/- The fifty-two bits of the fraction. -/
def fractionField
    (b : Binary) : Nat :=
  b.bits.toNat % fractionCount

/- The whole-number significand of a finite number. -/
def significand
    (b : Binary) : Nat :=
  if b.exponentField = 0 then
    b.fractionField
  else
    fractionCount + b.fractionField

/-
  The power of two by which the significand is scaled to
  give the magnitude of a finite number.
-/
def exponent
    (b : Binary) : Int :=
  (max b.exponentField 1 : Nat) - 1075

/-
  Whether the numbers just below are twice as close as the
  numbers just above.
-/
def isBoundary
    (b : Binary) : Bool :=
  b.fractionField == 0 && decide (1 < b.exponentField)

end Binary

end Courier
