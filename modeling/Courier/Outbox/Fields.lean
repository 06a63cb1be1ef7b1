import Courier.Outbox.Record

/-
  This file defines how the fields of events are put
  together: values that may be empty are left out, lists are
  joined by commas, and dictionaries are written as JSON.

  Key definitions include:
    * `Fields.put`
    * `Fields.putNonempty`
    * `Fields.putUnless`
    * `Fields.commaJoined`
-/

namespace Courier.Fields

/- Put a field. -/
def put
    (name value : String)
    (fields : Fields) : Fields :=
  fields.insert name value

/- Put a field unless a condition holds. -/
def putUnless
    (absent : Bool)
    (name value : String)
    (fields : Fields) : Fields :=
  if absent then fields else fields.put name value

/- Put a field unless its value is empty. -/
def putNonempty
    (name value : String)
    (fields : Fields) : Fields :=
  fields.putUnless value.isEmpty name value

/- Put a number. -/
def putNatural
    (name : String)
    (n : UInt64)
    (fields : Fields) : Fields :=
  fields.put name (Nat.repr n.toNat)

/- Put a number unless it is zero. -/
def putPositive
    (name : String)
    (n : UInt64)
    (fields : Fields) : Fields :=
  fields.putUnless (n == 0) name (Nat.repr n.toNat)

/- Texts with a comma between each two. -/
def commaJoined : List String → String
  | [] => ""
  | [last] => last
  | first :: second :: others =>
      first ++ "," ++ commaJoined (second :: others)

/- A dictionary of texts as JSON. -/
def jsonOfTexts
    (d : Dict String) : String :=
  (Json.Value.ofTexts d).render

/- A dictionary of any values as JSON. -/
def jsonOfValues
    (d : Dict Json.Value) : String :=
  (Json.Value.object d.entries).render

end Courier.Fields
