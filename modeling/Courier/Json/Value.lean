import Courier.Decimal.Binary
import Courier.Dict

/-
  This file defines JSON values.  Integers that fit 64 bits
  stay integers; every other number is a binary64 number.

  Key definitions include:
    * `Json.Number`
    * `Json.Value`
-/

namespace Courier.Json

/- A number. -/
inductive Number where
  /- An integer that is not negative. -/
  | natural (n : UInt64)
  /- A negative integer. -/
  | negative (n : Int64)
  /- Any other number. -/
  | real (x : Binary)
  deriving DecidableEq, Repr

/- A value; the fields of an object are in written order. -/
inductive Value where
  | null
  | bool (b : Bool)
  | number (n : Number)
  | text (s : String)
  | list (items : List Value)
  | object (fields : List (String × Value))

/- The value of a natural number of 64 bits. -/
def Value.natural
    (n : UInt64) : Value :=
  .number (.natural n)

/- The value of a signed integer. -/
def Value.integer
    (n : Int64) : Value :=
  if n < 0 then
    .number (.negative n)
  else
    .number (.natural n.toUInt64)

/- A list of texts. -/
def Value.texts
    (items : List String) : Value :=
  .list (items.map .text)

/- A dictionary of texts as an object. -/
def Value.ofTexts
    (d : Dict String) : Value :=
  .object (d.entries.map fun (key, value) => (key, .text value))

end Courier.Json
