import Courier.Json.Decoder
import Courier.Json.Printer

/-
  This file defines codecs, which pair the decoder of a type
  with the value that its elements are written as.

  Key definitions include:
    * `Json.Codec`
    * `Json.Codec.read`
    * `Json.Codec.write`
    * `Json.Codec.record`
-/

namespace Courier.Json

/- How the elements of a type are read and written. -/
structure Codec (α : Type) where
  decoder : Decoder α
  toValue : α → Value

namespace Codec

variable {α σ : Type}

------------------------------------------------------------
-- Reading and writing
------------------------------------------------------------

/- Read an element from its text. -/
def read
    (codec : Codec α)
    (s : String) : Except Problem α :=
  decode codec.decoder s

/- The compact text of an element. -/
def write
    (codec : Codec α)
    (a : α) : String :=
  (codec.toValue a).render

------------------------------------------------------------
-- Simple codecs
------------------------------------------------------------

/- Texts. -/
def text : Codec String where
  decoder := Decoder.text
  toValue := .text

/- Natural numbers of 64 bits. -/
def natural : Codec UInt64 where
  decoder := Decoder.natural
  toValue := .natural

/- Signed integers of 64 bits. -/
def integer : Codec Int64 where
  decoder := Decoder.integer
  toValue := .integer

/- Octets. -/
def octet : Codec UInt8 where
  decoder := Decoder.octet
  toValue := fun o => .natural o.toUInt64

/- Lists. -/
def list
    (codec : Codec α) : Codec (List α) where
  decoder := Decoder.list codec.decoder
  toValue := fun items => .list (items.map codec.toValue)

/- Dictionaries of texts. -/
def texts : Codec (Dict String) where
  decoder := Decoder.dict Decoder.text
  toValue := .ofTexts

/- Dictionaries of any values. -/
def anyDict : Codec (Dict Value) where
  decoder := Decoder.anyDict
  toValue := fun d => .object d.entries

/- Choices, each with the name that it is written as. -/
def choice
    (choices : List (String × α))
    (name : α → String) : Codec α where
  decoder := Decoder.choice choices
  toValue := fun a => .text (name a)

------------------------------------------------------------
-- Records
------------------------------------------------------------

/- A field of a record, with the value that it is written as. -/
structure Field (σ : Type) where
  decoder : Decoder.Field σ
  toValue : σ → Value

/- The field with a name, a codec, and its place in the record. -/
def Field.of
    (name : String)
    (codec : Codec α)
    (get : σ → α)
    (put : α → σ → σ) : Field σ where
  decoder := Decoder.field name codec.decoder put
  toValue := fun s => codec.toValue (get s)

/-
  Records, written with their fields in the given order.  The
  start gives the fields that are missing where there are
  defaults.
-/
def record
    (fields : List (Field σ))
    (defaults : Bool)
    (start : σ) : Codec σ where
  decoder := Decoder.record (fields.map (·.decoder)) defaults start
  toValue := fun s =>
    .object (fields.map fun f => (f.decoder.name, f.toValue s))

end Codec

end Courier.Json
