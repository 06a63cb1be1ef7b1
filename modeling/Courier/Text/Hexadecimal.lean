import Courier.Text.Octets

/-
  This file defines the hexadecimal form of octets: two digits
  for each, the higher one first, and letters in lower case.

  Key definitions include:
    * `Text.hexadecimal`
    * `Text.ofHexadecimal`
-/

namespace Courier.Text

------------------------------------------------------------
-- Writing
------------------------------------------------------------

/- The two digits of an octet. -/
def octetDigits
    (o : UInt8) : List Char :=
  [Nat.digitChar (o.toNat / 16), Nat.digitChar (o.toNat % 16)]

/- The hexadecimal form of some octets. -/
def hexadecimal
    (octets : Octets) : String :=
  String.ofList (octets.flatMap octetDigits)

------------------------------------------------------------
-- Reading
------------------------------------------------------------

/- The value of a digit; letters are in lower case. -/
def hexadecimalValue
    (c : Char) : Nat :=
  if c.isDigit then
    c.toNat - '0'.toNat
  else
    c.toNat - 'a'.toNat + 10

/- Read the octets of pairs of digits, after some in reverse. -/
def readOctets : Octets → List Char → Octets
  | before, c :: d :: rest =>
      readOctets
        (UInt8.ofNat (hexadecimalValue c * 16 + hexadecimalValue d) :: before)
        rest
  | before, _ => before.reverse

/- The octets with a hexadecimal form. -/
def ofHexadecimal
    (s : String) : Octets :=
  readOctets [] s.toList

end Courier.Text
