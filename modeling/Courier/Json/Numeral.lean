import Courier.Json.Scanner

/-
  This file defines the reading of JSON numbers.

  The digits form a significand of 64 bits.  Digits that
  would take it further only count towards the exponent, and
  behind the point they do not count at all.  A number that
  is no integer of 64 bits is the significand as a binary64
  number, multiplied or divided once by a power of ten.

  Key definitions include:
    * `Json.gatherDigits`
    * `Json.scaleReal?`
    * `Json.readNumber`
    * `Json.skipNumber`
-/

namespace Courier.Json

------------------------------------------------------------
-- Digits
------------------------------------------------------------

/- The value of a decimal digit. -/
def digitValue
    (c : Char) : Nat :=
  c.toNat - '0'.toNat

/- Whether the characters start with a decimal digit. -/
def startsWithDigit : List Char → Bool
  | c :: _ => c.isDigit
  | [] => false

/-
  Add digits to a number for as long as it stays within a
  limit.  The answer is the number, how many digits were
  added, and what is left.
-/
def gatherDigits
    (limit : Nat)
    (n count : Nat) : List Char → Nat × Nat × List Char
  | [] => (n, count, [])
  | c :: rest =>
      if c.isDigit ∧ n * 10 + digitValue c ≤ limit then
        gatherDigits limit (n * 10 + digitValue c) (count + 1) rest
      else
        (n, count, c :: rest)

/- Drop the digits at the front, and count them. -/
def dropDigits
    (cs : List Char) : Nat × List Char :=
  ((cs.takeWhile Char.isDigit).length, cs.dropWhile Char.isDigit)

------------------------------------------------------------
-- Binary64 numbers
------------------------------------------------------------

/- The largest significand. -/
def mostSignificand : Nat :=
  18446744073709551615

/- The largest exponent of a power of ten that is finite. -/
def mostPower : Nat :=
  308

/- A power of ten as a binary64 number. -/
def tenTo
    (n : Nat) : Float :=
  Float.ofScientific 1 false n

/- Divide by a power of ten, in steps that are finite. -/
def divideByTenTo
    (x : Float)
    (n : Nat) : Float :=
  if n ≤ mostPower then
    x / tenTo n
  else if n ≤ 2 * mostPower then
    x / tenTo mostPower / tenTo (n - mostPower)
  else
    0

/- The number `significand * 10 ^ exponent`, if it is finite. -/
def scaleReal?
    (significand : Nat)
    (exponent : Int) : Option Float :=
  let x := (UInt64.ofNat significand).toFloat
  match exponent with
  | .negSucc n => some (divideByTenTo x (n + 1))
  | .ofNat n =>
      if n ≤ mostPower then
        let scaled := x * tenTo n
        if scaled.isInf then none else some scaled
      else if significand = 0 then
        some 0
      else
        none

/- A binary64 number with a sign. -/
def signed
    (positive : Bool)
    (x : Float) : Number :=
  .real (Binary.ofFloat (if positive then x else -x))

/- Finish a number with the given parts. -/
def finishReal
    (positive : Bool)
    (significand : Nat)
    (exponent : Int) : Reader Number :=
  fun rest =>
    match scaleReal? significand exponent with
    | some x => .ok (signed positive x, rest)
    | none => .error .malformed

------------------------------------------------------------
-- Parts of a number
------------------------------------------------------------

/- Whether a character marks an exponent. -/
def isExponentMark
    (c : Char) : Bool :=
  c == 'e' || c == 'E'

/- The largest exponent that is still counted. -/
def mostExponent : Nat :=
  2147483647

/- Take the sign of an exponent; none is positive. -/
def takeSign : List Char → Bool × List Char
  | '+' :: rest => (true, rest)
  | '-' :: rest => (false, rest)
  | cs => (true, cs)

/- Read an exponent whose mark has been read. -/
def readExponent
    (positive : Bool)
    (significand : Nat)
    (start : Int) : Reader Number :=
  fun cs =>
    let (up, digits) := takeSign cs
    match digits with
    | [] => .error .truncated
    | c :: _ =>
        if c.isDigit then
          let (e, _, rest) := gatherDigits mostExponent 0 0 digits
          if startsWithDigit rest then
            if significand ≠ 0 ∧ up then
              .error .malformed
            else
              .ok (signed positive 0, (dropDigits rest).2)
          else
            finishReal positive significand
              (if up then start + e else start - e) rest
        else
          .error .malformed

/- Read an exponent if there is one, and finish the number. -/
def readScale
    (positive : Bool)
    (significand : Nat)
    (exponent : Int) : Reader Number
  | [] => finishReal positive significand exponent []
  | c :: rest =>
      if isExponentMark c then
        readExponent positive significand exponent rest
      else
        finishReal positive significand exponent (c :: rest)

/- Read the digits behind a point. -/
def readFraction
    (positive : Bool)
    (significand : Nat)
    (exponent : Int) : Reader Number :=
  fun cs =>
    match cs with
    | [] => .error .truncated
    | c :: _ =>
        if c.isDigit then
          let (n, count, rest) :=
            gatherDigits mostSignificand significand 0 cs
          readScale positive n (exponent - count) (dropDigits rest).2
        else
          .error .malformed

/- The magnitude of the least integer of 64 bits. -/
def mostNegative : Nat :=
  9223372036854775808

/- The integer with the given sign, where it fits 64 bits. -/
def integerNumber
    (positive : Bool)
    (n : Nat) : Number :=
  if positive then
    .natural (UInt64.ofNat n)
  else if 1 ≤ n ∧ n ≤ mostNegative then
    .negative (Int64.ofInt (-n))
  else
    signed false (UInt64.ofNat n).toFloat

/- Read what may follow the digits of an integer. -/
def readTail
    (positive : Bool)
    (n : Nat) : Reader Number
  | [] => .ok (integerNumber positive n, [])
  | c :: rest =>
      if c = '.' then
        readFraction positive n 0 rest
      else if isExponentMark c then
        readExponent positive n 0 rest
      else
        .ok (integerNumber positive n, c :: rest)

/- Read what may follow more digits than a significand holds. -/
def readLongTail
    (positive : Bool)
    (n : Nat)
    (cs : List Char) : Except Problem (Number × List Char) :=
  let (count, rest) := dropDigits cs
  match rest with
  | '.' :: rest => readFraction positive n count rest
  | rest => readScale positive n count rest

/- Read a number whose sign, if any, has been read. -/
def readNumber
    (positive : Bool) : Reader Number
  | [] => .error .truncated
  | c :: rest =>
      if c = '0' then
        if startsWithDigit rest then
          .error .malformed
        else
          readTail positive 0 rest
      else if c.isDigit then
        let (n, _, rest) :=
          gatherDigits mostSignificand 0 0 (c :: rest)
        if startsWithDigit rest then
          readLongTail positive n rest
        else
          readTail positive n rest
      else
        .error .malformed

------------------------------------------------------------
-- Numbers that nobody wants
------------------------------------------------------------

/- Pass over the digits of an exponent. -/
def skipExponent
    (cs : List Char) : Except Problem (Unit × List Char) :=
  let digits := (takeSign cs).2
  if startsWithDigit digits then
    .ok ((), (dropDigits digits).2)
  else
    .error .malformed

/- Pass over the fraction and the exponent of a number. -/
def skipTail : Reader Unit
  | [] => .ok ((), [])
  | c :: rest =>
      if c = '.' then
        if startsWithDigit rest then
          match (dropDigits rest).2 with
          | [] => .ok ((), [])
          | d :: after =>
              if isExponentMark d then
                skipExponent after
              else
                .ok ((), d :: after)
        else
          .error .malformed
      else if isExponentMark c then
        skipExponent rest
      else
        .ok ((), c :: rest)

/- Pass over a number whose sign, if any, has been read. -/
def skipNumber : Reader Unit
  | [] => .error .malformed
  | c :: rest =>
      if c = '0' then
        if startsWithDigit rest then
          .error .malformed
        else
          skipTail rest
      else if c.isDigit then
        skipTail (dropDigits rest).2
      else
        .error .malformed

end Courier.Json
