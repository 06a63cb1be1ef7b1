import Courier.Json.Codec
import Mathlib.Data.List.Basic

/-
  This file shows that texts, and dictionaries of texts, read
  back from JSON as they were written.

  Objects read back whatever values they hold, as long as each
  of the values does in front of a delimiter.

  Key definitions include:
    * `Json.IsDelimited`
    * `Json.Reader.Reverts`, `Json.Reader.Restores`
    * `Json.Codec.Restores`

  Main statements:
    * `Dict.ofList_entries`
    * `Json.readText_print`
    * `Json.readAllFields_print`
    * `Json.Codec.Restores.read_write`
    * `Json.Codec.texts_restores`, `Json.Codec.texts_read_write`
-/

namespace Courier

------------------------------------------------------------
-- Dictionaries
------------------------------------------------------------

/- An entry behind all others is put there. -/
theorem Entries.insert_last
    {α : Type}
    {entries : List (String × α)}
    {key : String}
    (hLast : ∀ entry ∈ entries, entry.1 < key)
    (value : α) :
    insert key value entries = entries ++ [(key, value)] := by
  induction entries with
  | nil => rfl
  | cons entry rest ih =>
      have hFirst := hLast entry List.mem_cons_self
      have hNotBefore : ¬ key < entry.1 := String.lt_asymm hFirst
      have hNotSame : key ≠ entry.1 := by
        rintro rfl
        exact String.lt_irrefl _ hFirst
      rw [insert, if_neg hNotBefore, if_neg hNotSame,
        ih fun other hOther => hLast other (List.mem_cons_of_mem _ hOther)]
      rfl

/- Entries in order that are put in one after the other stay so. -/
theorem Dict.foldl_insert_entries
    {α : Type}
    (more : List (String × α))
    (d : Dict α)
    (hSorted : Entries.Sorted (d.entries ++ more)) :
    (more.foldl (fun d entry => d.insert entry.1 entry.2) d).entries =
      d.entries ++ more := by
  induction more generalizing d with
  | nil => exact (List.append_nil _).symm
  | cons entry rest ih =>
      have hLast : ∀ other ∈ d.entries, other.1 < entry.1 := by
        intro other hOther
        exact
          (List.pairwise_append.mp hSorted).2.2 other hOther entry
            List.mem_cons_self
      have hInsert :
          (d.insert entry.1 entry.2).entries = d.entries ++ [entry] :=
        Entries.insert_last hLast entry.2
      rw [List.append_cons] at hSorted ⊢
      rw [← hInsert] at hSorted ⊢
      exact ih _ hSorted

/- The entries of a dictionary make this dictionary. -/
theorem Dict.ofList_entries
    {α : Type}
    (d : Dict α) :
    ofList d.entries = d :=
  Dict.ext (foldl_insert_entries d.entries empty d.sorted)

namespace Json

------------------------------------------------------------
-- Texts
------------------------------------------------------------

/- The digits of a hexadecimal number have their values. -/
theorem hexValue?_digitChar :
    ∀ n < 16, hexValue? (Nat.digitChar n) = some n := by
  decide

/- An escape inside a text. -/
theorem readChars_escape
    {read cs rest : List Char}
    {c : Char}
    (hEscape : readEscape cs = .ok (c, rest)) :
    readChars read ('\\' :: cs) = readChars (c :: read) rest := by
  rw [readChars]
  simp only [Char.reduceEq, if_false, if_true]
  split
  · rename_i problem hProblem
    rw [hEscape] at hProblem
    cases hProblem
  · rename_i escaped after hOk
    rw [hEscape] at hOk
    cases hOk
    rfl

/- A control character is read back from its code. -/
theorem readEscape_control
    {c : Char}
    (hControl : c.toNat < 0x20)
    (rest : List Char) :
    readEscape
        ('u' :: '0' :: '0' :: hexDigit (c.toNat / 16) ::
          hexDigit c.toNat :: rest) =
      .ok (c, rest) := by
  have hZero : hexValue? '0' = some 0 := by decide
  have hHigh : hexValue? (hexDigit (c.toNat / 16)) = some (c.toNat / 16) := by
    rw [hexDigit, Nat.mod_eq_of_lt (by omega)]
    exact hexValue?_digitChar _ (by omega)
  have hLow : hexValue? (hexDigit c.toNat) = some (c.toNat % 16) :=
    hexValue?_digitChar _ (Nat.mod_lt _ (by decide))
  have hUnit :
      ((0 * 16 + 0) * 16 + c.toNat / 16) * 16 + c.toNat % 16 = c.toNat := by
    omega
  have hTrailing : isTrailing c.toNat = false := by
    simp only [isTrailing, Bool.and_eq_false_iff, decide_eq_false_iff_not]
    omega
  have hLeading : isLeading c.toNat = false := by
    simp only [isLeading, Bool.and_eq_false_iff, decide_eq_false_iff_not]
    omega
  have hSimple : simpleEscape? 'u' = none := by decide
  simp only [readEscape, hSimple, if_true, readUnits, readHex, hZero,
    hHigh, hLow, hUnit, hTrailing, hLeading, Bool.false_eq_true,
    if_false, Char.ofNat_toNat]

/-
  A character is written as a letter behind a backslash, or by
  its code, or as it is.
-/
theorem printChar_cases
    (c : Char) :
    (∃ letter,
        printChar c = ['\\', letter] ∧ simpleEscape? letter = some c) ∨
      (c.toNat < 0x20 ∧
        printChar c =
          ['\\', 'u', '0', '0', hexDigit (c.toNat / 16),
            hexDigit c.toNat]) ∨
      (c ≠ '"' ∧ c ≠ '\\' ∧ ¬ c.toNat < 0x20 ∧ printChar c = [c]) := by
  unfold printChar
  split_ifs with hQuote hSlash hBack hFeed hLine hReturn hTab hControl
  · exact .inl ⟨'"', rfl, by rw [hQuote]; rfl⟩
  · exact .inl ⟨'\\', rfl, by rw [hSlash]; rfl⟩
  · exact .inl ⟨'b', rfl, by rw [hBack]; rfl⟩
  · exact .inl ⟨'f', rfl, by rw [hFeed]; rfl⟩
  · exact .inl ⟨'n', rfl, by rw [hLine]; rfl⟩
  · exact .inl ⟨'r', rfl, by rw [hReturn]; rfl⟩
  · exact .inl ⟨'t', rfl, by rw [hTab]; rfl⟩
  · exact .inr (.inl ⟨hControl, rfl⟩)
  · exact .inr (.inr ⟨hQuote, hSlash, hControl, rfl⟩)

/- A character is read back as it was written. -/
theorem readChars_printChar
    (c : Char)
    (read rest : List Char) :
    readChars read (printChar c ++ rest) = readChars (c :: read) rest := by
  rcases printChar_cases c with
    ⟨letter, hPrint, hLetter⟩ | ⟨hControl, hPrint⟩ |
      ⟨hQuote, hSlash, hPlain, hPrint⟩
  · have hEscape : readEscape (letter :: rest) = .ok (c, rest) := by
      rw [readEscape, hLetter]
    rw [hPrint]
    exact readChars_escape hEscape
  · rw [hPrint]
    exact readChars_escape (readEscape_control hControl rest)
  · rw [hPrint, List.singleton_append, readChars]
    simp only [hQuote, hSlash, hPlain, if_false]

/- So are some characters, up to the closing quote. -/
theorem readChars_print
    (chars read rest : List Char) :
    readChars read (chars.flatMap printChar ++ '"' :: rest) =
      .ok (read.reverse ++ chars, rest) := by
  induction chars generalizing read with
  | nil =>
      rw [List.flatMap_nil, List.nil_append, readChars]
      simp
  | cons c others ih =>
      rw [List.flatMap_cons, List.append_assoc, readChars_printChar, ih]
      simp

/- So is a text. -/
theorem readText_print
    (s : String)
    (rest : List Char) :
    ∃ inside,
      printText s ++ rest = '"' :: inside ∧
        readText inside = .ok (s, rest) := by
  refine ⟨s.toList.flatMap printChar ++ '"' :: rest, ?_, ?_⟩
  · simp [printText]
  · rw [readText, readChars_print]
    simp

------------------------------------------------------------
-- Delimiters
------------------------------------------------------------

/- A reader takes a value from where it is written. -/
def Reader.Reverts
    {α : Type}
    (reader : Reader α)
    (written : List Char)
    (a : α) : Prop :=
  ∀ rest, reader (written ++ rest) = .ok (a, rest)

/- Behind a value stands nothing, or a delimiter. -/
def IsDelimited
    (rest : List Char) : Prop :=
  ∀ c ∈ rest.head?, c = ',' ∨ c = ']' ∨ c = '}'

/- No value starts with a blank, or like the end of a list. -/
def startsValue : List Char → Bool
  | [] => false
  | c :: _ => !isBlank c && c != ']'

/-
  A reader takes a value from where it is written, if the
  value is delimited.
-/
structure Reader.Restores
    {α : Type}
    (reader : Reader α)
    (written : List Char)
    (a : α) : Prop where
  starts : startsValue written = true
  takes :
    ∀ rest, IsDelimited rest → reader (written ++ rest) = .ok (a, rest)

/- What may be made of a value may be made of it when it is read. -/
theorem Reader.Restores.map
    {α β : Type}
    {reader : Reader α}
    {written : List Char}
    {a : α}
    (hRestores : reader.Restores written a)
    (f : α → β) :
    (reader.map f).Restores written (f a) where
  starts := hRestores.starts
  takes := by
    intro rest hDelimited
    rw [Reader.map, hRestores.takes rest hDelimited]
    rfl

------------------------------------------------------------
-- Objects
------------------------------------------------------------

/- The fields behind the first, with a comma ahead. -/
def printMoreFields : List (String × Value) → List Char
  | [] => []
  | field :: rest => ',' :: printFields (field :: rest)

/- Fields that are the first of their object, or behind others. -/
def printFieldsFrom
    (first : Bool)
    (fields : List (String × Value)) : List Char :=
  if first then printFields fields else printMoreFields fields

/- The comma ahead of all but the first. -/
def commaUnless
    (first : Bool) : List Char :=
  if first then [] else [',']

/- The next field is written ahead of the others. -/
theorem printFieldsFrom_cons
    (first : Bool)
    (key : String)
    (value : Value)
    (rest : List (String × Value)) :
    printFieldsFrom first ((key, value) :: rest) =
      commaUnless first ++
        (printText key ++
          ':' :: (value.print ++ printFieldsFrom false rest)) := by
  cases first <;> cases rest <;>
    simp [printFieldsFrom, commaUnless, printFields, printMoreFields]

/- Each field takes characters. -/
theorem length_le_printFieldsFrom
    (first : Bool)
    (fields : List (String × Value)) :
    fields.length ≤ (printFieldsFrom first fields).length := by
  induction fields generalizing first with
  | nil => exact Nat.zero_le _
  | cons field rest ih =>
      have hRest := ih false
      rw [printFieldsFrom_cons]
      simp only [List.length_cons, List.length_append]
      omega

theorem length_le_printFields
    (fields : List (String × Value)) :
    fields.length ≤ (printFields fields).length :=
  length_le_printFieldsFrom true fields

/- An object is written between braces. -/
theorem print_object_append
    (fields : List (String × Value))
    (rest : List Char) :
    (Value.object fields).print ++ rest =
      '{' :: (printFields fields ++ '}' :: rest) := by
  simp [Value.print]

/- The values of an object are delimited. -/
theorem isDelimited_fields
    (fields : List (String × Value))
    (rest : List Char) :
    IsDelimited (printFieldsFrom false fields ++ '}' :: rest) := by
  intro c hHead
  cases fields with
  | nil => exact .inr (.inr (Option.some.inj hHead).symm)
  | cons field others => exact .inl (Option.some.inj hHead).symm

/- A key is read from where it is written. -/
theorem nextKey_print
    (first : Bool)
    (key : String)
    (behind : List Char) :
    ∃ inside,
      nextKey first (commaUnless first ++ (printText key ++ behind)) =
          .ok (true, inside) ∧
        readText inside = .ok (key, behind) := by
  rcases readText_print key behind with ⟨inside, hInside, hKey⟩
  refine ⟨inside, ?_, hKey⟩
  rw [hInside]
  cases first <;> rfl

section Objects

variable {α : Type}
variable {value : Reader α}
variable {toValue : α → Value}

/- Fields are read back if their values are. -/
theorem readFields_print
    {fields : List (String × α)}
    (hValues :
      ∀ field ∈ fields, value.Restores (toValue field.2).print field.2)
    {fuel : Nat}
    (hFuel : fields.length < fuel)
    (first : Bool)
    (rest : List Char) :
    readFields readText value fuel first
        (printFieldsFrom first (fields.map fun f => (f.1, toValue f.2)) ++
          '}' :: rest) =
      .ok (fields, rest) := by
  induction fields generalizing fuel first with
  | nil =>
      cases fuel with
      | zero => exact absurd hFuel (Nat.not_lt_zero _)
      | succ fuel => cases first <;> rfl
  | cons field others ih =>
      rcases field with ⟨key, a⟩
      cases fuel with
      | zero => exact absurd hFuel (Nat.not_lt_zero _)
      | succ fuel =>
          have hOthers :=
            ih (fun f hf => hValues f (List.mem_cons_of_mem _ hf))
              (Nat.lt_of_succ_lt_succ hFuel) false
          have hValue :=
            (hValues _ List.mem_cons_self).takes _
              (isDelimited_fields
                (others.map fun f => (f.1, toValue f.2)) rest)
          rcases nextKey_print first key
              (':' :: ((toValue a).print ++
                (printFieldsFrom false
                  (others.map fun f => (f.1, toValue f.2)) ++
                    '}' :: rest))) with
            ⟨inside, hNext, hKey⟩
          have hColon : ∀ cs, readColon (':' :: cs) = .ok ((), cs) :=
            fun _ => rfl
          rw [List.map_cons, printFieldsFrom_cons]
          simp only [List.append_assoc, List.cons_append]
          simp only [readFields, hNext, hKey, hColon, hValue, hOthers,
            bind, Except.bind, pure, Except.pure, if_true]

variable (toValue) in
/- All fields of an object are read back. -/
theorem readAllFields_print
    {fields : List (String × α)}
    (hValues :
      ∀ field ∈ fields, value.Restores (toValue field.2).print field.2)
    (rest : List Char) :
    readAllFields readText value
        (printFields (fields.map fun f => (f.1, toValue f.2)) ++
          '}' :: rest) =
      .ok (fields, rest) := by
  have hLength :=
    length_le_printFields (fields.map fun f => (f.1, toValue f.2))
  refine readFields_print hValues ?_ true rest
  rw [List.length_map] at hLength
  rw [List.length_append]
  omega

end Objects

/- A dictionary reads back if its values do. -/
theorem Decoder.dict_restores
    {α : Type}
    {value : Decoder α}
    (toValue : α → Value)
    {depth : Nat}
    {d : Dict α}
    (hValues :
      ∀ entry ∈ d.entries,
        Reader.Restores (value depth) (toValue entry.2).print entry.2) :
    Reader.Restores (Decoder.dict value (depth + 1))
      (Value.object
        (d.entries.map fun entry => (entry.1, toValue entry.2))).print
      d where
  starts := rfl
  takes := by
    intro rest _
    have hFields := readAllFields_print toValue hValues rest
    rw [print_object_append]
    change Reader.map Dict.ofList _ _ = _
    simp only [Reader.map, hFields]
    exact congrArg (fun d => Except.ok (d, rest)) d.ofList_entries

------------------------------------------------------------
-- Codecs
------------------------------------------------------------

/- A codec reads back what it writes, down to a depth. -/
def Codec.Restores
    {α : Type}
    (codec : Codec α)
    (depth : Nat)
    (a : α) : Prop :=
  Reader.Restores (codec.decoder depth) (codec.toValue a).print a

/- What is read back from the values is read back from the text. -/
theorem Codec.Restores.read_write
    {α : Type}
    {codec : Codec α}
    {a : α}
    (hRestores : codec.Restores nestingLimit a) :
    codec.read (codec.write a) = .ok a := by
  have hDecoded :
      codec.decoder nestingLimit (codec.toValue a).print = .ok (a, []) := by
    simpa using hRestores.takes [] fun c hHead => by cases hHead
  rw [read, write, decode, Value.render, String.toList_ofList, hDecoded]
  rfl

/- A text is decoded from where it is written. -/
theorem Decoder.text_reverts
    (depth : Nat)
    (s : String) :
    Reader.Reverts (Decoder.text depth) (Value.text s).print s := by
  intro rest
  rcases readText_print s rest with ⟨inside, hInside, hRead⟩
  rw [Value.print, hInside]
  exact hRead

theorem Codec.text_restores
    (depth : Nat)
    (s : String) :
    Codec.text.Restores depth s where
  starts := rfl
  takes := fun rest _ => Decoder.text_reverts depth s rest

theorem Codec.texts_restores
    (depth : Nat)
    (d : Dict String) :
    Codec.texts.Restores (depth + 1) d :=
  Decoder.dict_restores Value.text fun entry _ =>
    Codec.text_restores depth entry.2

/- A dictionary of texts reads back as it was written. -/
theorem Codec.texts_read_write
    (d : Dict String) :
    Codec.texts.read (Codec.texts.write d) = .ok d :=
  (Codec.texts_restores 126 d).read_write

end Json

end Courier
