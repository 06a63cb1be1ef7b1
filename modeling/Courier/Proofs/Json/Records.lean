import Courier.Proofs.Json.Values

/-
  This file shows that choices and records read back from JSON
  as they were written.

  The fields of a record are read one after the other, in the
  order in which they are written, and each of them is put in
  its place.  When all of them are there, nothing is left of
  the record that the reading started from.

  Key definitions include:
    * `Json.Codec.Refills`
    * `Json.Codec.RoundTrips`

  Main statements:
    * `Json.Codec.choice_restores`
    * `Json.readByName_print`
    * `Json.Codec.record_restores`
-/

namespace Courier.Json

------------------------------------------------------------
-- Choices
------------------------------------------------------------

/- A choice reads back if its name tells it. -/
theorem Codec.choice_restores
    {α : Type}
    {choices : List (String × α)}
    {name : α → String}
    {a : α}
    (hName : Entries.get? (name a) choices = some a)
    (depth : Nat) :
    (Codec.choice choices name).Restores depth a := by
  have hText :
      Reader.Restores (Decoder.name choices depth)
        (Value.text (name a)).print a :=
    Decoder.filterMap_restores (Codec.text_restores depth (name a))
      (f := fun s => Entries.get? s choices) hName
  exact ⟨hText.starts, hText.takes⟩

------------------------------------------------------------
-- Fields
------------------------------------------------------------

section Records

variable {σ : Type}
variable {depth : Nat}
variable {s : σ}

/-
  Fields take a record from one state to another, if each of
  them is read back from what is written of it, and put in its
  place.
-/
inductive Codec.Refills
    (depth : Nat)
    (s : σ) : List (Codec.Field σ) → σ → σ → Prop
  | nil (acc : σ) : Refills depth s [] acc acc
  | cons
      {f : Codec.Field σ}
      {fields : List (Codec.Field σ)}
      {put : σ → σ}
      {acc last : σ}
      (hField :
        Reader.Restores (f.decoder.update depth) (f.toValue s).print put)
      (hOthers : Refills depth s fields (put acc) last) :
      Refills depth s (f :: fields) acc last

/- A field with a codec is read back if what it holds is. -/
theorem Codec.Refills.of
    {α : Type}
    {codec : Codec α}
    {get : σ → α}
    {name : String}
    {put : α → σ → σ}
    {fields : List (Codec.Field σ)}
    {acc last : σ}
    (hHeld : codec.Restores depth (get s))
    (hOthers : Codec.Refills depth s fields (put (get s) acc) last) :
    Codec.Refills depth s (.of name codec get put :: fields) acc last :=
  .cons (Reader.Restores.map hHeld put) hOthers

/- The fields of a record are written under their names. -/
def Codec.named
    (s : σ)
    (fields : List (Codec.Field σ)) : List (String × Value) :=
  fields.map fun f => (f.decoder.name, f.toValue s)

/- No field in front of another has its name. -/
theorem name_not_mem
    {before behind : List (Codec.Field σ)}
    {f : Codec.Field σ}
    (hDistinct :
      ((before ++ f :: behind).map (·.decoder.name)).Nodup) :
    f.decoder.name ∉ before.map (·.decoder.name) := by
  intro hMember
  rw [List.map_append, List.map_cons] at hDistinct
  exact
    (List.nodup_append.mp hDistinct).2.2 _ hMember _ List.mem_cons_self rfl

/- A field is found under its name. -/
theorem find?_name
    {before behind : List (Codec.Field σ)}
    {f : Codec.Field σ}
    (hDistinct :
      ((before ++ f :: behind).map (·.decoder.name)).Nodup) :
    ((before ++ f :: behind).map (·.decoder)).find?
        (fun g => g.name == f.decoder.name) =
      some f.decoder := by
  have hNone :
      (before.map (·.decoder)).find?
        (fun g => g.name == f.decoder.name) = none := by
    rw [List.find?_eq_none]
    intro g hMember hSame
    rcases List.mem_map.mp hMember with ⟨other, hOther, rfl⟩
    apply name_not_mem hDistinct
    rw [← beq_iff_eq.mp hSame]
    exact List.mem_map_of_mem hOther
  rw [List.map_append, List.find?_append, hNone, List.map_cons,
    List.find?_cons, beq_self_eq_true]
  rfl

/-
  The fields of a record are read back from where they are
  written.  The names of those that were read before are known.
-/
theorem readByName_print
    {fields before left : List (Codec.Field σ)}
    (hFields : before ++ left = fields)
    (hDistinct : (fields.map (·.decoder.name)).Nodup)
    {acc last : σ}
    (hRefills : Codec.Refills depth s left acc last)
    {fuel : Nat}
    (hFuel : left.length < fuel)
    (defaults first : Bool)
    (rest : List Char) :
    Decoder.readByName (fields.map (·.decoder)) defaults depth fuel first
        (before.map (·.decoder.name)).reverse acc
        (printFieldsFrom first (Codec.named s left) ++ '}' :: rest) =
      .ok (last, rest) := by
  induction hRefills generalizing before fuel first with
  | nil acc =>
      cases fuel with
      | zero => exact absurd hFuel (Nat.not_lt_zero _)
      | succ fuel =>
          have hNext :
              nextKey first
                  (printFieldsFrom first (Codec.named s []) ++ '}' :: rest) =
                .ok (false, rest) := by
            cases first <;> rfl
          have hAll :
              ((fields.map (·.decoder)).all fun f =>
                ((before.map (·.decoder.name)).reverse).contains f.name) =
                  true := by
            rw [← hFields, List.append_nil, List.all_map, List.all_eq_true]
            intro f hMember
            rw [Function.comp_apply, List.contains_iff_mem,
              List.mem_reverse]
            exact List.mem_map_of_mem hMember
          simp only [Decoder.readByName, hNext, hAll, Bool.or_true, bind,
            Except.bind, pure, Except.pure, if_true, Bool.false_eq_true,
            if_false]
  | @cons f others put acc last hField _ ih =>
      cases fuel with
      | zero => exact absurd hFuel (Nat.not_lt_zero _)
      | succ fuel =>
          -- The field that is read now is one of those before the others.
          have hNext : before ++ [f] ++ others = fields := by
            rw [List.append_assoc]
            exact hFields
          have hOthers := ih hNext (Nat.lt_of_succ_lt_succ hFuel) false
          rw [List.map_append, List.reverse_append] at hOthers
          have hTaken :=
            hField.takes _ (isDelimited_fields (Codec.named s others) rest)
          rw [← hFields] at hDistinct
          have hFind := find?_name hDistinct
          have hNew :
              ((before.map (·.decoder.name)).reverse).contains
                f.decoder.name = false := by
            rw [← Bool.not_eq_true, List.contains_iff_mem,
              List.mem_reverse]
            exact name_not_mem hDistinct
          rw [hFields] at hFind
          rcases nextKey_print first f.decoder.name
              (':' :: ((f.toValue s).print ++
                (printFieldsFrom false (Codec.named s others) ++
                  '}' :: rest))) with
            ⟨inside, hNext, hKey⟩
          have hColon : ∀ cs, readColon (':' :: cs) = .ok ((), cs) :=
            fun _ => rfl
          rw [Codec.named, List.map_cons, printFieldsFrom_cons,
            ← Codec.named]
          simp only [List.append_assoc, List.cons_append]
          simp only [Decoder.readByName, hNext, hKey, hFind, hNew, hColon,
            hTaken, bind, Except.bind, if_true, Bool.false_eq_true,
            if_false]
          exact hOthers

/-
  A record reads back if its fields have different names and
  take it from its start to what it is.
-/
theorem Codec.record_restores
    {fields : List (Codec.Field σ)}
    {defaults : Bool}
    {start : σ}
    (hDistinct : (fields.map (·.decoder.name)).Nodup)
    (hRefills : Codec.Refills depth s fields start s) :
    (Codec.record fields defaults start).Restores (depth + 1) s where
  starts := rfl
  takes := by
    intro rest _
    have hLength := length_le_printFields (Codec.named s fields)
    have hFuel :
        fields.length <
          (printFields (Codec.named s fields) ++ '}' :: rest).length + 1 := by
      rw [Codec.named, List.length_map] at hLength
      rw [List.length_append]
      exact Nat.lt_succ_of_le (Nat.le_trans hLength (Nat.le_add_right _ _))
    change
      (Codec.record fields defaults start).decoder (depth + 1)
        ((Value.object (Codec.named s fields)).print ++ rest) = _
    rw [print_object_append]
    exact
      readByName_print (List.nil_append fields) hDistinct hRefills hFuel
        defaults true rest

end Records

------------------------------------------------------------
-- Round trips
------------------------------------------------------------

/-
  An element reads back from its text, and what is read back is
  written as the same text.
-/
def Codec.RoundTrips
    {α : Type}
    (codec : Codec α)
    (a : α) : Prop :=
  codec.read (codec.write a) = .ok a ∧
    (codec.read (codec.write a)).map codec.write = .ok (codec.write a)

theorem Codec.Restores.roundTrips
    {α : Type}
    {codec : Codec α}
    {a : α}
    (hRestores : codec.Restores nestingLimit a) :
    codec.RoundTrips a := by
  refine ⟨hRestores.read_write, ?_⟩
  rw [hRestores.read_write]
  rfl

end Courier.Json
