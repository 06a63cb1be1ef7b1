import Courier.Decimal.Binary

/-
  This file defines the shortest decimals of binary64
  numbers: the fewest digits that read back as the number,
  and of those the nearest to it.

  For one digit, two digits, and so on up to seventeen, the
  two multiples of the decimal unit that surround the number
  are tested against the interval of reals that round to the
  number.  All arithmetic is exact.

  Key definitions include:
    * `Decimal`
    * `Decimal.shortest`
-/

namespace Courier

/- The number `digits * 10 ^ exponent`. -/
structure Decimal where
  digits : Nat
  exponent : Int
  deriving DecidableEq, Repr

namespace Decimal

------------------------------------------------------------
-- Fractions
------------------------------------------------------------

/- A nonnegative fraction; the denominator is positive. -/
structure Fraction where
  numerator : Nat
  denominator : Nat

/- A whole number scaled by a power of a base. -/
def Fraction.scaled
    (n base : Nat)
    (exponent : Int) : Fraction :=
  match exponent with
  | .ofNat e => ⟨n * Nat.pow base e, 1⟩
  | .negSucc e => ⟨n, Nat.pow base (e + 1)⟩

/- Whether one fraction is below another. -/
def Fraction.below
    (a b : Fraction) : Bool :=
  decide (a.numerator * b.denominator < b.numerator * a.denominator)

/- Whether one fraction is not above another. -/
def Fraction.notAbove
    (a b : Fraction) : Bool :=
  !b.below a

/- The whole part of one fraction divided by another. -/
def Fraction.quotient
    (a b : Fraction) : Nat :=
  a.numerator * b.denominator / (a.denominator * b.numerator)

/- The distance between two fractions. -/
def Fraction.distance
    (a b : Fraction) : Fraction :=
  let x := a.numerator * b.denominator
  let y := b.numerator * a.denominator
  ⟨(x - y) + (y - x), a.denominator * b.denominator⟩

------------------------------------------------------------
-- Rounding intervals
------------------------------------------------------------

/-
  The interval of reals that round to a number, with the
  number itself.  The ends belong to it when the significand
  is even.
-/
structure Interval where
  lower : Fraction
  value : Fraction
  upper : Fraction
  closed : Bool

/- The interval of a finite nonzero number. -/
def Interval.of
    (b : Binary) : Interval :=
  let m := 4 * b.significand
  let scale := b.exponent - 2
  { lower := .scaled (m - if b.isBoundary then 1 else 2) 2 scale
    value := .scaled m 2 scale
    upper := .scaled (m + 2) 2 scale
    closed := b.significand % 2 == 0 }

/- Whether a fraction lies in an interval. -/
def Interval.contains
    (i : Interval)
    (x : Fraction) : Bool :=
  if i.closed then
    i.lower.notAbove x && x.notAbove i.upper
  else
    i.lower.below x && x.below i.upper

------------------------------------------------------------
-- The search for the fewest digits
------------------------------------------------------------

/- The greatest power of ten that is not above a fraction below one. -/
def smallMagnitude
    (x : Fraction) : Nat → Int → Int
  | 0, e => e
  | fuel + 1, e =>
      if x.below (.scaled 1 10 e) then
        smallMagnitude x fuel (e - 1)
      else
        e

/- The power of ten that the first digit of a fraction counts. -/
def magnitude
    (x : Fraction) : Int :=
  let whole := x.numerator / x.denominator
  if whole = 0 then
    smallMagnitude x 400 (-1)
  else
    (Nat.repr whole).length - 1

/-
  The decimal with a given unit that reads back as the
  number, if one of the two next to it does.  Of two the
  nearer is taken, and the even one where both are as near.
-/
def candidate?
    (i : Interval)
    (unit : Int) : Option Decimal :=
  let n := i.value.quotient (.scaled 1 10 unit)
  let low := Fraction.scaled n 10 unit
  let high := Fraction.scaled (n + 1) 10 unit
  let below := i.value.distance low
  let above := high.distance i.value
  match i.contains low, i.contains high with
  | false, false => none
  | true, false => some ⟨n, unit⟩
  | false, true => some ⟨n + 1, unit⟩
  | true, true =>
      if below.below above then some ⟨n, unit⟩
      else if above.below below then some ⟨n + 1, unit⟩
      else if n % 2 = 0 then some ⟨n, unit⟩
      else some ⟨n + 1, unit⟩

/- The number of digits that always suffices. -/
def mostDigits : Nat :=
  17

/- The first decimal found as the unit shrinks. -/
def search
    (i : Interval) : Nat → Int → Decimal
  | 0, unit => ⟨i.value.quotient (.scaled 1 10 unit), unit⟩
  | more + 1, unit =>
      match candidate? i unit with
      | some decimal => decimal
      | none => search i more (unit - 1)

/- Move the zeros at the end of the digits to the exponent. -/
def trimZeros : Nat → Decimal → Decimal
  | 0, d => d
  | fuel + 1, d =>
      if d.digits ≠ 0 ∧ d.digits % 10 = 0 then
        trimZeros fuel ⟨d.digits / 10, d.exponent + 1⟩
      else
        d

/- The shortest decimal of the magnitude of a finite number. -/
def shortest
    (b : Binary) : Decimal :=
  if b.significand = 0 then
    ⟨0, 0⟩
  else
    let i := Interval.of b
    trimZeros mostDigits (search i mostDigits (magnitude i.value))

end Decimal

end Courier
