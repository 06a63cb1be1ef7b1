/-
  This file defines readings of the wall clock.  Nothing in
  the library reads a clock: every operation that stamps its
  result takes the reading as an argument.

  Key definitions include:
    * `Instant`
    * `Instant.unixSeconds`
    * `Instant.stamp`
-/

namespace Courier

/- A clock reading, in nanoseconds since the Unix epoch. -/
structure Instant where
  nanoseconds : Nat
  deriving DecidableEq, Repr

namespace Instant

/- Whole seconds since the Unix epoch. -/
def unixSeconds
    (now : Instant) : Nat :=
  now.nanoseconds / 1000000000

/- The reading as the creation time of a message. -/
def stamp
    (now : Instant) : Int64 :=
  Int64.ofNat now.nanoseconds

end Instant

end Courier
