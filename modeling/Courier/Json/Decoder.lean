import Courier.Json.Reader

/-
  This file defines decoders, readers of JSON values of a
  given type.  Where a value has another shape than the one
  that is wanted, its text is checked only as far as it takes
  to tell the shape.

  A record is an object with the fields of the record, or a
  list of the values of all fields in their order.  Fields
  that the record does not have are passed over.

  Key definitions include:
    * `Json.Decoder`
    * `Json.decode`
    * `Json.Decoder.text`
    * `Json.Decoder.natural`
    * `Json.Decoder.record`
    * `Json.Decoder.choice`
-/

namespace Courier.Json

------------------------------------------------------------
-- Decoders
------------------------------------------------------------

/- A decoder reads a value, given how deep it may nest. -/
abbrev Decoder (α : Type) :=
  Nat → Reader α

/- How deep lists and objects may be nested. -/
def nestingLimit : Nat :=
  127

/- Read a text as one value, with nothing but blanks behind it. -/
def decode
    {α : Type}
    (decoder : Decoder α)
    (s : String) : Except Problem α := do
  let (a, rest) ← decoder nestingLimit s.toList
  if (skipBlanks rest).isEmpty then
    return a
  else
    throw .malformed

/-
  The problem with a value of an unwanted kind.  Words,
  numbers and texts are read before they are refused.
-/
def wrongKind
    (cs : List Char) : Problem :=
  let reader : Reader Unit :=
    readByKind () (fun _ => ())
      (fun positive => (readNumber positive).map fun _ => ())
      (readText.map fun _ => ())
      (refuse .mismatch)
      (refuse .mismatch)
  match reader cs with
  | .ok _ => .mismatch
  | .error problem => problem

namespace Decoder

variable {α β σ : Type}

------------------------------------------------------------
-- Simple values
------------------------------------------------------------

/- A text. -/
def text : Decoder String :=
  fun _ cs =>
    match skipBlanks cs with
    | [] => .error .truncated
    | c :: rest =>
        if c = '"' then
          readText rest
        else
          .error (wrongKind (c :: rest))

/- A number. -/
def number : Decoder Number :=
  fun _ cs =>
    match skipBlanks cs with
    | [] => .error .truncated
    | c :: rest =>
        if c = '-' then
          readNumber false rest
        else if c.isDigit then
          readNumber true (c :: rest)
        else
          .error (wrongKind (c :: rest))

/- A value that a partial function takes from another. -/
def filterMap
    (f : α → Option β)
    (decoder : Decoder α) : Decoder β :=
  fun depth cs => do
    let (a, rest) ← decoder depth cs
    match f a with
    | some b => return (b, rest)
    | none => throw .mismatch

/- The natural number that a number is. -/
def natural? : Number → Option UInt64
  | .natural n => some n
  | _ => none

/- The octet that a number is. -/
def octet? : Number → Option UInt8
  | .natural n => if n.toNat < 256 then some n.toUInt8 else none
  | _ => none

/- The signed integer that a number is. -/
def integer? : Number → Option Int64
  | .natural n => if n.toNat < mostNegative then some n.toInt64 else none
  | .negative n => some n
  | .real _ => none

/- A natural number of 64 bits. -/
def natural : Decoder UInt64 :=
  number.filterMap natural?

/- An octet. -/
def octet : Decoder UInt8 :=
  number.filterMap octet?

/- A signed integer of 64 bits. -/
def integer : Decoder Int64 :=
  number.filterMap integer?

------------------------------------------------------------
-- Lists and dictionaries
------------------------------------------------------------

/- Read what one bracket opens, one level deeper. -/
def nested
    (bracket : Char)
    (inner : Decoder α) : Decoder α :=
  fun depth cs =>
    match skipBlanks cs with
    | [] => .error .truncated
    | c :: rest =>
        if c = bracket then
          match depth with
          | 0 => .error .malformed
          | depth + 1 => inner depth rest
        else
          .error (wrongKind (c :: rest))

/- A list. -/
def list
    (item : Decoder α) : Decoder (List α) :=
  nested '[' fun depth => readAllItems (item depth)

/- A dictionary; of equal keys the last one counts. -/
def dict
    (value : Decoder α) : Decoder (Dict α) :=
  nested '{' fun depth =>
    (readAllFields readText (value depth)).map Dict.ofList

/- A dictionary of any values. -/
def anyDict : Decoder (Dict Value) :=
  dict readValue

------------------------------------------------------------
-- Choices
------------------------------------------------------------

/- The name of one of some choices. -/
def name
    (choices : List (String × α)) : Decoder α :=
  text.filterMap fun s => Entries.get? s choices

/- The value `null`. -/
def null : Decoder Unit :=
  fun _ cs =>
    match skipBlanks cs with
    | [] => .error .truncated
    | c :: rest =>
        if c = 'n' then
          readWord afterN rest
        else
          .error (wrongKind (c :: rest))

/- A key of an object, which is always a text. -/
def key
    (decoder : Decoder α) : Decoder α :=
  fun depth cs =>
    match skipBlanks cs with
    | [] => .error .truncated
    | c :: rest =>
        if c = '"' then
          decoder depth (c :: rest)
        else
          .error .malformed

/-
  One of some choices, given by its name, or by an object
  with its name as key and `null` as value.
-/
def choice
    (choices : List (String × α)) : Decoder α :=
  fun depth cs =>
    match skipBlanks cs with
    | [] => .error .truncated
    | c :: rest =>
        if c = '"' then
          name choices depth (c :: rest)
        else if c = '{' then
          match depth with
          | 0 => .error .malformed
          | depth + 1 => do
              let (a, rest) ← key (name choices) depth rest
              let ((), rest) ← readColon rest
              let ((), rest) ← null depth rest
              match skipBlanks rest with
              | [] => throw .truncated
              | c :: rest =>
                  if c = '}' then return (a, rest) else throw .malformed
        else
          .error .malformed

------------------------------------------------------------
-- Records
------------------------------------------------------------

/- A field of a record, and how a value for it is put there. -/
structure Field (σ : Type) where
  name : String
  update : Decoder (σ → σ)

/- The field with a name, a decoder, and a way to put a value. -/
def field
    (name : String)
    (decoder : Decoder α)
    (put : α → σ → σ) : Field σ where
  name := name
  update := fun depth => (decoder depth).map put

/- Go past the end of a list all of whose items were read. -/
def endList : Reader Unit :=
  fun cs =>
    match skipBlanks cs with
    | [] => .error .truncated
    | c :: rest =>
        if c = ']' then .ok ((), rest) else .error .malformed

/-
  Read the values of fields from a list.  A list that ends
  early leaves the other fields as they are, which only a
  record with defaults allows.
-/
def readByPosition
    (defaults : Bool)
    (depth : Nat) : List (Field σ) → Bool → σ → Reader σ
  | [], _, acc => fun cs => do
      let ((), rest) ← endList cs
      return (acc, rest)
  | f :: fields, first, acc => fun cs => do
      let (more, rest) ← nextItem first cs
      if more then
        let (put, rest) ← f.update depth rest
        readByPosition defaults depth fields false (put acc) rest
      else if defaults then
        return (acc, rest)
      else
        throw .mismatch

/-
  Read the fields of an object, each at most once.  The fuel
  bounds the number of steps.
-/
def readByName
    (fields : List (Field σ))
    (defaults : Bool)
    (depth : Nat) : Nat → Bool → List String → σ → Reader σ
  | 0, _, _, _ => fun _ => .error .truncated
  | fuel + 1, first, seen, acc => fun cs => do
      let (more, rest) ← nextKey first cs
      if more then
        let (key, rest) ← readText rest
        match fields.find? fun f => f.name == key with
        | none =>
            let ((), rest) ← readColon rest
            let ((), rest) ← skipValue rest
            readByName fields defaults depth fuel false seen acc rest
        | some f =>
            if seen.contains key then
              throw .mismatch
            else
              let ((), rest) ← readColon rest
              let (put, rest) ← f.update depth rest
              readByName fields defaults depth fuel false
                (key :: seen) (put acc) rest
      else if defaults || fields.all fun f => seen.contains f.name then
        return (acc, rest)
      else
        throw .mismatch

/-
  A record with the given fields, starting from a value that
  is only kept where there are defaults.
-/
def record
    (fields : List (Field σ))
    (defaults : Bool)
    (start : σ) : Decoder σ :=
  fun depth cs =>
    match skipBlanks cs with
    | [] => .error .truncated
    | c :: rest =>
        if c = '[' then
          match depth with
          | 0 => .error .malformed
          | depth + 1 => readByPosition defaults depth fields true start rest
        else if c = '{' then
          match depth with
          | 0 => .error .malformed
          | depth + 1 =>
              readByName fields defaults depth (rest.length + 1) true
                [] start rest
        else
          .error (wrongKind (c :: rest))

end Decoder

end Courier.Json
