import Courier.Decimal.Shortest
import Courier.Json.Value

/-
  This file defines the compact text of JSON values: no
  blanks, fields in the order of the value, everything but
  quotes, backslashes and control characters as it is.

  Key definitions include:
    * `Json.printText`
    * `Json.printNumber`
    * `Json.Value.print`
    * `Json.Value.render`
-/

namespace Courier.Json

------------------------------------------------------------
-- Texts
------------------------------------------------------------

/- The digits of a hexadecimal number. -/
def hexDigit
    (n : Nat) : Char :=
  Nat.digitChar (n % 16)

/- The written form of a character inside a text. -/
def printChar
    (c : Char) : List Char :=
  if c = '"' then ['\\', '"']
  else if c = '\\' then ['\\', '\\']
  else if c = '\x08' then ['\\', 'b']
  else if c = '\x0c' then ['\\', 'f']
  else if c = '\n' then ['\\', 'n']
  else if c = '\r' then ['\\', 'r']
  else if c = '\t' then ['\\', 't']
  else if c.toNat < 0x20 then
    ['\\', 'u', '0', '0', hexDigit (c.toNat / 16), hexDigit c.toNat]
  else [c]

/- The written form of a text. -/
def printText
    (s : String) : List Char :=
  '"' :: s.toList.flatMap printChar ++ ['"']

------------------------------------------------------------
-- Numbers
------------------------------------------------------------

/-
  How the digits of a binary64 number are set: positionally
  while the power of ten of the first digit is in a range,
  and with an exponent outside it.
-/
structure RealFormat where
  leastPositional : Int
  mostPositional : Int
  exponentMark : Char
  plusSign : Bool

/-
  Numbers from `1e-5` up to but not including `1e16` are
  written positionally, with a fraction in any case.
-/
def realFormat : RealFormat where
  leastPositional := -5
  mostPositional := 15
  exponentMark := 'e'
  plusSign := true

/- The sign and the digits of an exponent. -/
def RealFormat.printExponent
    (format : RealFormat)
    (e : Int) : List Char :=
  let sign :=
    if e < 0 then ['-'] else if format.plusSign then ['+'] else []
  format.exponentMark :: sign ++ (Nat.repr e.natAbs).toList

/- Digits with a point behind the first of them, if any follow. -/
def pointed : List Char → List Char
  | [] => []
  | [digit] => [digit]
  | digit :: others => digit :: '.' :: others

/- The written form of a decimal. -/
def RealFormat.printDecimal
    (format : RealFormat)
    (d : Decimal) : List Char :=
  let digits := (Nat.repr d.digits).toList
  let power := d.exponent + digits.length - 1
  if d.digits = 0 then
    ['0', '.', '0']
  else if power < format.leastPositional ∨ format.mostPositional < power then
    pointed digits ++ format.printExponent power
  else if 0 ≤ d.exponent then
    digits ++ List.replicate d.exponent.toNat '0' ++ ['.', '0']
  else if 0 ≤ power then
    let whole := power.toNat + 1
    digits.take whole ++ '.' :: digits.drop whole
  else
    '0' :: '.' :: List.replicate (-power - 1).toNat '0' ++ digits

/- The written form of a binary64 number. -/
def printReal
    (x : Binary) : List Char :=
  (if x.isNegative then ['-'] else []) ++
    realFormat.printDecimal (Decimal.shortest x)

/- The written form of a number. -/
def printNumber : Number → List Char
  | .natural n => (Nat.repr n.toNat).toList
  | .negative n => '-' :: (Nat.repr n.toInt.natAbs).toList
  | .real x => printReal x

------------------------------------------------------------
-- Values
------------------------------------------------------------

mutual

/- The written form of a value. -/
def Value.print : Value → List Char
  | .null => ['n', 'u', 'l', 'l']
  | .bool true => ['t', 'r', 'u', 'e']
  | .bool false => ['f', 'a', 'l', 's', 'e']
  | .number n => printNumber n
  | .text s => printText s
  | .list items => '[' :: printItems items ++ [']']
  | .object fields => '{' :: printFields fields ++ ['}']

/- The items of a list, with commas between them. -/
def printItems : List Value → List Char
  | [] => []
  | [item] => item.print
  | item :: next :: rest => item.print ++ ',' :: printItems (next :: rest)

/- The fields of an object, with commas between them. -/
def printFields : List (String × Value) → List Char
  | [] => []
  | [(key, value)] => printText key ++ ':' :: value.print
  | (key, value) :: next :: rest =>
      printText key ++ ':' :: value.print ++ ',' :: printFields (next :: rest)

end

/- The compact text of a value. -/
def Value.render
    (v : Value) : String :=
  String.ofList v.print

end Courier.Json
