import Courier.Text.Octets

/-
  This file defines readers of octets.  A reader takes its
  value from the front and hands on what is left, or refuses.

  Key definitions include:
    * `Wire.Reader`
    * `Wire.takeExactly`
-/

namespace Courier.Wire

/- A reader takes a value from the front of some octets. -/
abbrev Reader (α : Type) :=
  Octets → Option (α × Octets)

/- Take the given number of octets, all of which must be there. -/
def takeExactly
    (n : Nat) : Reader Octets :=
  fun octets =>
    if octets.length < n then
      none
    else
      some (octets.take n, octets.drop n)

/- Take one octet. -/
def takeOctet : Reader UInt8
  | [] => none
  | octet :: rest => some (octet, rest)

end Courier.Wire
