import Courier.Instant
import Courier.Json.Codec

/-
  This file defines events and the records that they become
  on a stream.  A record carries the fields of its event, its
  operation, and the second in which it was made.

  Key definitions include:
    * `Fields`
    * `Event`
    * `Record`
    * `Record.ofEvent`
    * `Record.codec`
-/

namespace Courier

/- The fields of an event or a record. -/
abbrev Fields :=
  Dict String

/- Something that happened in a service. -/
structure Event where
  /- What happened, such as `config.create`. -/
  operation : String
  /- The fields that tell what it happened to. -/
  fields : Fields
  deriving DecidableEq

/- An entry for a stream. -/
structure Record where
  /- The stream that the record is for. -/
  stream : String
  /- About how many entries the stream keeps. -/
  maxLength : UInt64
  fields : Fields
  deriving DecidableEq

namespace Record

------------------------------------------------------------
-- Records of events
------------------------------------------------------------

/- The field that holds the operation. -/
def operationField : String :=
  "operation"

/- The field that holds the Unix second. -/
def occurredAtField : String :=
  "occurred_at"

/-
  The record of an event.  An event that has a field for its
  operation or its time keeps it.
-/
def ofEvent
    (now : Instant)
    (stream : String)
    (maxLength : UInt64)
    (event : Event) : Record where
  stream := stream
  maxLength := maxLength
  fields :=
    (event.fields.insertNew operationField event.operation).insertNew
      occurredAtField (Nat.repr now.unixSeconds)

/- The value of a field. -/
def get?
    (r : Record)
    (name : String) : Option String :=
  r.fields.get? name

/- The operation of a record. -/
def operation?
    (r : Record) : Option String :=
  r.get? operationField

------------------------------------------------------------
-- JSON
------------------------------------------------------------

/- Records in JSON. -/
def codec : Json.Codec Record :=
  .record
    [ .of "stream" .text (·.stream)
        fun v r => { r with stream := v }
    , .of "max_len" .natural (·.maxLength)
        fun v r => { r with maxLength := v }
    , .of "values" .texts (·.fields)
        fun v r => { r with fields := v } ]
    false
    { stream := "", maxLength := 0, fields := .empty }

end Record

end Courier
