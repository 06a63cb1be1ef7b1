/-
  This file defines spans of time and their written form:
  the largest unit among seconds, milliseconds,
  microseconds and nanoseconds that is not above the span,
  with the fraction cut after its last nonzero digit.

  Key definitions include:
    * `Duration`
    * `Duration.ofMilliseconds`
    * `Duration.ofSeconds`
    * `Duration.render`
-/

namespace Courier

/- A span of time, a whole number of nanoseconds. -/
structure Duration where
  nanoseconds : Nat
  deriving DecidableEq, Repr

namespace Duration

------------------------------------------------------------
-- Construction
------------------------------------------------------------

/- Nanoseconds in a second. -/
def perSecond : Nat :=
  1000000000

/- Nanoseconds in a millisecond. -/
def perMillisecond : Nat :=
  1000000

/- Nanoseconds in a microsecond. -/
def perMicrosecond : Nat :=
  1000

/- The span of no time. -/
def zero : Duration :=
  ⟨0⟩

/- The span of some microseconds. -/
def ofMicroseconds
    (n : Nat) : Duration :=
  ⟨n * perMicrosecond⟩

/- The span of some milliseconds. -/
def ofMilliseconds
    (n : Nat) : Duration :=
  ⟨n * perMillisecond⟩

/- The span of some seconds. -/
def ofSeconds
    (n : Nat) : Duration :=
  ⟨n * perSecond⟩

/- One span after another. -/
def add
    (d e : Duration) : Duration :=
  ⟨d.nanoseconds + e.nanoseconds⟩

instance : Add Duration :=
  ⟨add⟩

------------------------------------------------------------
-- Parts
------------------------------------------------------------

/- The whole seconds of a span. -/
def wholeSeconds
    (d : Duration) : Nat :=
  d.nanoseconds / perSecond

/- The nanoseconds beyond the whole seconds. -/
def subsecond
    (d : Duration) : Nat :=
  d.nanoseconds % perSecond

/- The whole milliseconds of a span. -/
def wholeMilliseconds
    (d : Duration) : Nat :=
  d.nanoseconds / perMillisecond

/- Whether one span is longer than another. -/
def exceeds
    (d limit : Duration) : Bool :=
  decide (limit.nanoseconds < d.nanoseconds)

------------------------------------------------------------
-- Written form
------------------------------------------------------------

/-
  The last `width` decimal digits of a number, leading
  zeros kept.
-/
def fixedDigits : Nat → Nat → List Char
  | 0, _ => []
  | width + 1, n =>
      fixedDigits width (n / 10) ++ [Nat.digitChar (n % 10)]

/- Drop the zeros at the end of a digit string. -/
def dropTrailingZeros
    (digits : List Char) : List Char :=
  (digits.reverse.dropWhile (· == '0')).reverse

/-
  A span in one unit: `scale` nanoseconds make the unit, and
  the fraction has at most `width` digits.
-/
def renderIn
    (scale width : Nat)
    (unit : String)
    (d : Duration) : String :=
  let fraction :=
    dropTrailingZeros (fixedDigits width (d.nanoseconds % scale))
  let whole := Nat.repr (d.nanoseconds / scale)
  if fraction.isEmpty then
    whole ++ unit
  else
    whole ++ "." ++ String.ofList fraction ++ unit

/- The written form of a span. -/
def render
    (d : Duration) : String :=
  if d.nanoseconds ≥ perSecond then
    d.renderIn perSecond 9 "s"
  else if d.nanoseconds ≥ perMillisecond then
    d.renderIn perMillisecond 6 "ms"
  else if d.nanoseconds ≥ perMicrosecond then
    d.renderIn perMicrosecond 3 "µs"
  else
    d.renderIn 1 0 "ns"

end Duration

end Courier
