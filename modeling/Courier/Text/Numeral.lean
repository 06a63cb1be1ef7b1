/-
  This file defines the reading of natural numbers from
  plain text: an optional plus sign, then one or more decimal
  digits, and nothing else.

  Key definitions include:
    * `Text.parseNatural?`
-/

namespace Courier.Text

/- The number with the given decimal digits. -/
def ofDecimalDigits
    (digits : List Char) : Nat :=
  digits.foldl (fun n c => n * 10 + (c.toNat - '0'.toNat)) 0

/- The digits of a numeral, without the sign. -/
def unsignedPart : List Char → List Char
  | '+' :: digits => digits
  | digits => digits

/- The number of 64 bits that a text stands for. -/
def parseNatural?
    (s : String) : Option UInt64 :=
  let digits := unsignedPart s.toList
  if digits.isEmpty || !digits.all Char.isDigit then
    none
  else
    let n := ofDecimalDigits digits
    if n < UInt64.size then some (UInt64.ofNat n) else none

end Courier.Text
