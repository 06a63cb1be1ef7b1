import Courier.Proofs.Json.Numbers

/-
  This file shows that lists, and values that are nested to any
  depth, read back from JSON as they were written, as long as
  all of their numbers are integers and the reader may go as
  deep as they do.

  Key definitions include:
    * `Json.Value.depth`
    * `Json.Value.IsIntegral`

  Main statements:
    * `Json.readAllItems_print`
    * `Json.readValue_restores`
    * `Json.Codec.list_restores`, `Json.Codec.anyDict_restores`
-/

namespace Courier.Json

------------------------------------------------------------
-- Lists
------------------------------------------------------------

/- The items behind the first, with a comma ahead. -/
def printMoreItems : List Value → List Char
  | [] => []
  | item :: rest => ',' :: printItems (item :: rest)

/- Items that are the first of their list, or behind others. -/
def printItemsFrom
    (first : Bool)
    (items : List Value) : List Char :=
  if first then printItems items else printMoreItems items

/- The next item is written ahead of the others. -/
theorem printItemsFrom_cons
    (first : Bool)
    (item : Value)
    (rest : List Value) :
    printItemsFrom first (item :: rest) =
      commaUnless first ++ (item.print ++ printItemsFrom false rest) := by
  cases first <;> cases rest <;>
    simp [printItemsFrom, commaUnless, printItems, printMoreItems]

/- The items of a list are delimited. -/
theorem isDelimited_items
    (items : List Value)
    (rest : List Char) :
    IsDelimited (printItemsFrom false items ++ ']' :: rest) := by
  intro c hHead
  cases items with
  | nil => exact .inr (.inl (Option.some.inj hHead).symm)
  | cons item others => exact .inl (Option.some.inj hHead).symm

/- An item is found where it is written. -/
theorem nextItem_print
    (first : Bool)
    {written : List Char}
    (hStarts : startsValue written = true)
    (behind : List Char) :
    nextItem first (commaUnless first ++ (written ++ behind)) =
      .ok (true, written ++ behind) := by
  cases written with
  | nil => exact Bool.noConfusion hStarts
  | cons c others =>
      simp only [startsValue, Bool.and_eq_true, Bool.not_eq_true',
        bne_iff_ne] at hStarts
      have hComma : ∀ cs, skipBlanks (',' :: cs) = ',' :: cs :=
        fun _ => rfl
      cases first <;>
        simp [nextItem, commaUnless, hComma, skipBlanks_cons hStarts.1,
          hStarts.2]

section Lists

variable {α : Type}
variable {item : Reader α}
variable {toValue : α → Value}

/- Items are read back if each of them is. -/
theorem readItems_print
    {items : List α}
    (hItems : ∀ a ∈ items, item.Restores (toValue a).print a)
    {fuel : Nat}
    (hFuel : items.length < fuel)
    (first : Bool)
    (rest : List Char) :
    readItems item fuel first
        (printItemsFrom first (items.map toValue) ++ ']' :: rest) =
      .ok (items, rest) := by
  induction items generalizing fuel first with
  | nil =>
      cases fuel with
      | zero => exact absurd hFuel (Nat.not_lt_zero _)
      | succ fuel => cases first <;> rfl
  | cons a others ih =>
      cases fuel with
      | zero => exact absurd hFuel (Nat.not_lt_zero _)
      | succ fuel =>
          have hOthers :=
            ih (fun b hb => hItems b (List.mem_cons_of_mem _ hb))
              (Nat.lt_of_succ_lt_succ hFuel) false
          have hItem := hItems a List.mem_cons_self
          have hTaken :=
            hItem.takes _ (isDelimited_items (others.map toValue) rest)
          have hNext :=
            nextItem_print first hItem.starts
              (printItemsFrom false (others.map toValue) ++ ']' :: rest)
          rw [List.map_cons, printItemsFrom_cons]
          simp only [List.append_assoc]
          simp only [readItems, hNext, hTaken, hOthers, bind, Except.bind,
            pure, Except.pure, if_true]

/- A list is written between brackets. -/
theorem print_list_append
    (items : List Value)
    (rest : List Char) :
    (Value.list items).print ++ rest =
      '[' :: (printItems items ++ ']' :: rest) := by
  simp [Value.print]

/- But for the last one, each item has a comma behind it. -/
theorem length_le_printItems
    (items : List Value) :
    items.length ≤ (printItems items).length + 1 := by
  induction items with
  | nil => exact Nat.zero_le _
  | cons item rest ih =>
      cases rest with
      | nil => exact Nat.le_add_left 1 _
      | cons next others =>
          simp only [printItems, List.length_cons, List.length_append]
            at ih ⊢
          omega

/- All items of a list are read back. -/
theorem readAllItems_print
    {items : List α}
    (hItems : ∀ a ∈ items, item.Restores (toValue a).print a)
    (rest : List Char) :
    readAllItems item (printItems (items.map toValue) ++ ']' :: rest) =
      .ok (items, rest) := by
  have hLength := length_le_printItems (items.map toValue)
  refine readItems_print hItems ?_ true rest
  rw [List.length_map] at hLength
  rw [List.length_append, List.length_cons]
  omega

end Lists

------------------------------------------------------------
-- Nesting
------------------------------------------------------------

mutual

/- How deep lists and objects are nested in a value. -/
def Value.depth : Value → Nat
  | .null => 0
  | .bool _ => 0
  | .number _ => 0
  | .text _ => 0
  | .list items => itemsDepth items + 1
  | .object fields => fieldsDepth fields + 1

/- How deep they are nested in the items of a list. -/
def itemsDepth : List Value → Nat
  | [] => 0
  | item :: rest => max item.depth (itemsDepth rest)

/- How deep they are nested in the fields of an object. -/
def fieldsDepth : List (String × Value) → Nat
  | [] => 0
  | (_, value) :: rest => max value.depth (fieldsDepth rest)

end

/- No item is nested deeper than all of them. -/
theorem itemsDepth_le_iff
    {items : List Value}
    {depth : Nat} :
    itemsDepth items ≤ depth ↔ ∀ item ∈ items, item.depth ≤ depth := by
  induction items with
  | nil => simp [itemsDepth]
  | cons item rest ih =>
      rw [itemsDepth, Nat.max_le, ih, List.forall_mem_cons]

/- No field is nested deeper than all of them. -/
theorem fieldsDepth_le_iff
    {fields : List (String × Value)}
    {depth : Nat} :
    fieldsDepth fields ≤ depth ↔
      ∀ field ∈ fields, field.2.depth ≤ depth := by
  induction fields with
  | nil => simp [fieldsDepth]
  | cons field rest ih =>
      rw [fieldsDepth, Nat.max_le, ih, List.forall_mem_cons]

------------------------------------------------------------
-- Values
------------------------------------------------------------

/-
  A value all of whose numbers are integers.  Its objects have
  the order of their keys, in which objects are always kept.
-/
inductive Value.IsIntegral : Value → Prop
  | null : IsIntegral .null
  | bool (b : Bool) : IsIntegral (.bool b)
  | number {n : Number} (hInteger : n.IsInteger) : IsIntegral (.number n)
  | text (s : String) : IsIntegral (.text s)
  | list
      {items : List Value}
      (hItems : ∀ item ∈ items, IsIntegral item) :
      IsIntegral (.list items)
  | object
      {fields : List (String × Value)}
      (hSorted : Entries.Sorted fields)
      (hFields : ∀ field ∈ fields, IsIntegral field.2) :
      IsIntegral (.object fields)

/- A number is told from other values by its first character. -/
theorem readByKind_number
    {α : Type}
    {n : Number}
    (hInteger : n.IsInteger)
    {null : α}
    {bool : Bool → α}
    {number : Number → α}
    {text list object : Reader α} :
    Reader.Restores
      (readByKind null bool (fun positive => (readNumber positive).map number)
        text list object)
      (printNumber n) (number n) where
  starts := startsValue_printNumber hInteger
  takes := by
    intro rest hDelimited
    rcases readNumber_print hInteger with
      ⟨c, others, hPrint, hDigit, hRead⟩ | ⟨digits, hPrint, hRead⟩
    · have hOther : ∀ d, d.isDigit = false → c ≠ d :=
        fun d => ne_of_isDigit hDigit
      have hTaken := hRead rest hDelimited
      rw [hPrint, List.cons_append] at hTaken ⊢
      simp only [readByKind,
        skipBlanks_cons (not_isBlank_of_isDigit hDigit),
        hOther 'n' rfl, hOther 't' rfl, hOther 'f' rfl, hOther '-' rfl,
        hDigit, if_true, if_false, Reader.map, hTaken]
      rfl
    · rw [hPrint]
      change Reader.map number (readNumber false) (digits ++ rest) = _
      rw [Reader.map, hRead rest hDelimited]
      rfl

/- So is a text. -/
theorem readByKind_text
    {α : Type}
    (s : String)
    {null : α}
    {bool : Bool → α}
    {number : Bool → Reader α}
    {text : String → α}
    {list object : Reader α} :
    Reader.Restores
      (readByKind null bool number (readText.map text) list object)
      (printText s) (text s) where
  starts := rfl
  takes := by
    intro rest _
    rcases readText_print s rest with ⟨inside, hInside, hRead⟩
    rw [hInside]
    change Reader.map text readText inside = _
    rw [Reader.map, hRead]
    rfl

/- Simple values are read alike at every depth. -/
theorem readValue_simple
    {v : Value}
    (hKinds :
      ∀ list object,
        Reader.Restores
          (readByKind .null .bool
            (fun positive => (readNumber positive).map .number)
            (readText.map .text) list object)
          v.print v)
    (depth : Nat) :
    Reader.Restores (readValue depth) v.print v := by
  cases depth with
  | zero => exact hKinds _ _
  | succ depth => exact hKinds _ _

/- A list is read one level above its items. -/
theorem readValue_list
    {items : List Value}
    {depth : Nat}
    (hItems :
      ∀ item ∈ items, Reader.Restores (readValue depth) item.print item) :
    Reader.Restores (readValue (depth + 1)) (Value.list items).print
      (.list items) where
  starts := rfl
  takes := by
    intro rest _
    have hRead := readAllItems_print hItems rest
    rw [List.map_id'] at hRead
    rw [print_list_append]
    change Reader.map Value.list (readAllItems (readValue depth)) _ = _
    rw [Reader.map, hRead]
    rfl

/- An object is read one level above its fields. -/
theorem readValue_object
    {fields : List (String × Value)}
    {depth : Nat}
    (hSorted : Entries.Sorted fields)
    (hFields :
      ∀ field ∈ fields,
        Reader.Restores (readValue depth) field.2.print field.2) :
    Reader.Restores (readValue (depth + 1)) (Value.object fields).print
      (.object fields) where
  starts := rfl
  takes := by
    intro rest _
    have hRead := readAllFields_print (fun v => v) hFields rest
    have hKept : Value.ofFields fields = .object fields := by
      have hDict := Dict.ofList_entries ⟨fields, hSorted⟩
      dsimp only at hDict
      rw [Value.ofFields, hDict]
    rw [List.map_id'] at hRead
    rw [print_object_append]
    change
      Reader.map Value.ofFields
        (readAllFields readText (readValue depth)) _ = _
    rw [Reader.map, hRead]
    exact congrArg (fun v => Except.ok (v, rest)) hKept

/-
  A value is read back as it was written, if its numbers are
  integers and the reader may go as deep as it does.
-/
theorem readValue_restores
    {v : Value}
    (hIntegral : v.IsIntegral)
    {depth : Nat}
    (hDepth : v.depth ≤ depth) :
    Reader.Restores (readValue depth) v.print v := by
  -- Each list and each object takes one level of the depth.
  induction hIntegral generalizing depth with
  | null => exact readValue_simple (fun _ _ => ⟨rfl, fun _ _ => rfl⟩) depth
  | bool b =>
      apply readValue_simple
      cases b with
      | true => exact fun _ _ => ⟨rfl, fun _ _ => rfl⟩
      | false => exact fun _ _ => ⟨rfl, fun _ _ => rfl⟩
  | number hInteger =>
      exact readValue_simple (fun _ _ => readByKind_number hInteger) depth
  | text s => exact readValue_simple (fun _ _ => readByKind_text s) depth
  | list _ ih =>
      cases depth with
      | zero => exact absurd hDepth (Nat.not_succ_le_zero _)
      | succ depth =>
          have hItems :=
            itemsDepth_le_iff.mp (Nat.le_of_succ_le_succ hDepth)
          exact readValue_list fun item hItem =>
            ih item hItem (hItems item hItem)
  | object hSorted _ ih =>
      cases depth with
      | zero => exact absurd hDepth (Nat.not_succ_le_zero _)
      | succ depth =>
          have hFields :=
            fieldsDepth_le_iff.mp (Nat.le_of_succ_le_succ hDepth)
          exact readValue_object hSorted fun field hField =>
            ih field hField (hFields field hField)

------------------------------------------------------------
-- Codecs
------------------------------------------------------------

/- A list reads back if its items do. -/
theorem Codec.list_restores
    {α : Type}
    {codec : Codec α}
    {depth : Nat}
    {items : List α}
    (hItems : ∀ a ∈ items, codec.Restores depth a) :
    codec.list.Restores (depth + 1) items where
  starts := rfl
  takes := by
    intro rest _
    change
      codec.list.decoder (depth + 1)
        ((Value.list (items.map codec.toValue)).print ++ rest) = _
    rw [print_list_append]
    exact readAllItems_print hItems rest

/- A dictionary of any values reads back if its values may. -/
theorem Codec.anyDict_restores
    {depth : Nat}
    {d : Dict Value}
    (hIntegral : ∀ entry ∈ d.entries, entry.2.IsIntegral)
    (hDepth : ∀ entry ∈ d.entries, entry.2.depth ≤ depth) :
    Codec.anyDict.Restores (depth + 1) d := by
  have hRestores :=
    Decoder.dict_restores (fun v => v) fun entry hEntry =>
      readValue_restores (hIntegral entry hEntry) (hDepth entry hEntry)
  rw [List.map_id'] at hRestores
  exact hRestores

end Courier.Json
