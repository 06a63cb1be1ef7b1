import Courier.Json.Numeral

/-
  This file defines the reading of JSON values, and the
  passing over of values that nobody wants.

  Lists and objects may be nested up to a limit.  Values that
  are passed over have no such limit, and their numbers and
  code units are only checked for their form.

  Key definitions include:
    * `Json.nextItem`
    * `Json.nextKey`
    * `Json.readItems`
    * `Json.readFields`
    * `Json.readValue`
    * `Json.skipValue`
-/

namespace Courier.Json

------------------------------------------------------------
-- Lists and objects
------------------------------------------------------------

/-
  Go to the next item of a list whose opening bracket has
  been read, or past its closing bracket.
-/
def nextItem
    (first : Bool) : Reader Bool :=
  fun cs =>
    match skipBlanks cs with
    | [] => .error .truncated
    | c :: rest =>
        if c = ']' then
          .ok (false, rest)
        else if first then
          .ok (true, c :: rest)
        else if c = ',' then
          match skipBlanks rest with
          | [] => .error .truncated
          | d :: after =>
              if d = ']' then .error .malformed else .ok (true, d :: after)
        else
          .error .malformed

/-
  Go behind the opening quote of the next key of an object
  whose opening brace has been read, or past its closing
  brace.
-/
def nextKey
    (first : Bool) : Reader Bool :=
  fun cs =>
    match skipBlanks cs with
    | [] => .error .truncated
    | c :: rest =>
        if c = '}' then
          .ok (false, rest)
        else if first then
          if c = '"' then .ok (true, rest) else .error .malformed
        else if c = ',' then
          match skipBlanks rest with
          | [] => .error .truncated
          | d :: after =>
              if d = '"' then .ok (true, after) else .error .malformed
        else
          .error .malformed

/- Read the colon behind a key. -/
def readColon : Reader Unit :=
  fun cs =>
    match skipBlanks cs with
    | [] => .error .truncated
    | c :: rest =>
        if c = ':' then .ok ((), rest) else .error .malformed

/-
  Read the items of a list whose opening bracket has been
  read.  The fuel bounds the number of steps, each of which
  takes at least one character.
-/
def readItems
    {α : Type}
    (item : Reader α) : Nat → Bool → Reader (List α)
  | 0, _ => fun _ => .error .truncated
  | fuel + 1, first => fun cs => do
      let (more, rest) ← nextItem first cs
      if more then
        let (a, rest) ← item rest
        let (others, rest) ← readItems item fuel false rest
        return (a :: others, rest)
      else
        return ([], rest)

/-
  Read the fields of an object whose opening brace has been
  read, with the same use of fuel.
-/
def readFields
    {κ α : Type}
    (key : Reader κ)
    (value : Reader α) : Nat → Bool → Reader (List (κ × α))
  | 0, _ => fun _ => .error .truncated
  | fuel + 1, first => fun cs => do
      let (more, rest) ← nextKey first cs
      if more then
        let (k, rest) ← key rest
        let ((), rest) ← readColon rest
        let (v, rest) ← value rest
        let (others, rest) ← readFields key value fuel false rest
        return ((k, v) :: others, rest)
      else
        return ([], rest)

/- Read all items of a list. -/
def readAllItems
    {α : Type}
    (item : Reader α) : Reader (List α) :=
  fun cs => readItems item (cs.length + 1) true cs

/- Read all fields of an object. -/
def readAllFields
    {κ α : Type}
    (key : Reader κ)
    (value : Reader α) : Reader (List (κ × α)) :=
  fun cs => readFields key value (cs.length + 1) true cs

------------------------------------------------------------
-- Values
------------------------------------------------------------

/- Read a value of which the first character decides the kind. -/
def readByKind
    {α : Type}
    (null : α)
    (bool : Bool → α)
    (number : Bool → Reader α)
    (text list object : Reader α) : Reader α :=
  fun cs =>
    match skipBlanks cs with
    | [] => .error .truncated
    | c :: rest =>
        if c = 'n' then do
          let ((), rest) ← readWord afterN rest
          return (null, rest)
        else if c = 't' then do
          let ((), rest) ← readWord afterT rest
          return (bool true, rest)
        else if c = 'f' then do
          let ((), rest) ← readWord afterF rest
          return (bool false, rest)
        else if c = '-' then number false rest
        else if c.isDigit then number true (c :: rest)
        else if c = '"' then text rest
        else if c = '[' then list rest
        else if c = '{' then object rest
        else .error .malformed

/- Give a value that was read another form. -/
def Reader.map
    {α β : Type}
    (f : α → β)
    (reader : Reader α) : Reader β :=
  fun cs => do
    let (a, rest) ← reader cs
    return (f a, rest)

/- Refuse whatever follows. -/
def refuse
    {α : Type}
    (problem : Problem) : Reader α :=
  fun _ => .error problem

/- An object has its keys in order, and the last of equal keys. -/
def Value.ofFields
    (fields : List (String × Value)) : Value :=
  .object (Dict.ofList fields).entries

/- Read a value that nests lists and objects to a given depth. -/
def readValue : Nat → Reader Value
  | 0 =>
      readByKind .null .bool
        (fun positive => (readNumber positive).map .number)
        (readText.map .text)
        (refuse .malformed)
        (refuse .malformed)
  | depth + 1 =>
      readByKind .null .bool
        (fun positive => (readNumber positive).map .number)
        (readText.map .text)
        ((readAllItems (readValue depth)).map .list)
        ((readAllFields readText (readValue depth)).map .ofFields)

------------------------------------------------------------
-- Values that nobody wants
------------------------------------------------------------

/-
  Pass over a value; the fuel bounds the depth of nesting, and
  the number of steps on each level.
-/
def skipNested : Nat → Reader Unit
  | 0 => refuse .truncated
  | fuel + 1 =>
      readByKind () (fun _ => ())
        (fun _ => skipNumber)
        skipText
        ((readItems (skipNested fuel) (fuel + 1) true).map fun _ => ())
        ((readFields skipText (skipNested fuel) (fuel + 1) true).map
          fun _ => ())

/-
  Pass over a value; each level of nesting and each step takes
  a character.
-/
def skipValue : Reader Unit :=
  fun cs => skipNested (cs.length + 1) cs

end Courier.Json
