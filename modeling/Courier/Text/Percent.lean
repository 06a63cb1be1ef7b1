import Courier.Text.Hexadecimal

/-
  This file defines the reading of texts in which octets may
  be written as a percent sign and two hexadecimal digits.

  Key definitions include:
    * `Text.percentDecoded`
    * `Text.percentDecoded?`
-/

namespace Courier.Text

/- Whether a character is a hexadecimal digit, in either case. -/
def isHexadecimalDigit
    (c : Char) : Bool :=
  c.isDigit || 'a' ≤ c.toLower && c.toLower ≤ 'f'

/-
  The octets that a text stands for.  A percent sign that two
  digits do not follow stands for itself.
-/
def percentDecoded : List Char → Octets
  | '%' :: c :: d :: rest =>
      if isHexadecimalDigit c && isHexadecimalDigit d then
        UInt8.ofNat
            (hexadecimalValue c.toLower * 16 + hexadecimalValue d.toLower)
          :: percentDecoded rest
      else
        utf8 "%" ++ percentDecoded (c :: d :: rest)
  | c :: rest => utf8 (String.ofList [c]) ++ percentDecoded rest
  | [] => []

/- The text that a text stands for, if it stands for one. -/
def percentDecoded?
    (cs : List Char) : Option String :=
  ofUtf8? (percentDecoded cs)

end Courier.Text
