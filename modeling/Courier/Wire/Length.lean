import Courier.Wire.Integer

/-
  This file defines the wire form of lengths and of texts.
  A length below 255 is one octet; any other is the octet
  255 and an integer.

  Key definitions include:
    * `Wire.lengthLimit`
    * `Wire.writeLength`
    * `Wire.readLength`
    * `Wire.writeText`
    * `Wire.readText`
-/

namespace Courier.Wire

------------------------------------------------------------
-- Lengths
------------------------------------------------------------

/- Lengths from this one on are refused. -/
def lengthLimit : Nat :=
  9223372036854775807 / 4096

/- The octet that announces a long length. -/
def longMark : UInt8 :=
  255

/- The wire form of a length. -/
def writeLength
    (n : Nat) : Octets :=
  if n < 255 then
    [UInt8.ofNat n]
  else
    longMark :: writeInteger n

/- Read a length; the long form may hold a short length. -/
def readLength : Reader Nat :=
  fun octets => do
    let (first, rest) ← takeOctet octets
    if first = longMark then
      let (n, rest) ← readInteger rest
      guard (n < lengthLimit)
      return (n, rest)
    else
      return (first.toNat, rest)

------------------------------------------------------------
-- Texts
------------------------------------------------------------

/- The wire form of a text: its length, and its octets. -/
def writeText
    (s : String) : Octets :=
  let octets := Text.utf8 s
  writeLength octets.length ++ octets

/- Read a text, which has to be valid. -/
def readText : Reader String :=
  fun octets => do
    let (n, rest) ← readLength octets
    let (data, rest) ← takeExactly n rest
    let text ← Text.ofUtf8? data
    return (text, rest)

end Courier.Wire
