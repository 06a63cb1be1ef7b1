/-
  This file defines dictionaries, finite maps from texts
  whose entries are kept in the order of their keys.  The
  order of texts by code point is also the order of their
  UTF-8 octets.

  Key definitions include:
    * `Dict`
    * `Dict.get?`
    * `Dict.insert`
    * `Dict.insertNew`
    * `Dict.ofList`

  Two dictionaries are equal as soon as they have the same
  entries, by `Dict.ext`.
-/

namespace Courier

------------------------------------------------------------
-- Sorted entries
------------------------------------------------------------

namespace Entries

variable {α : Type}

/- Entries are sorted when their keys increase strictly. -/
def Sorted
    (entries : List (String × α)) : Prop :=
  entries.Pairwise fun a b => a.1 < b.1

/- The value of a key among some entries. -/
def get?
    (key : String)
    (entries : List (String × α)) : Option α :=
  (entries.find? fun entry => entry.1 == key).map (·.2)

/- Put an entry in its place, in front of later keys. -/
def insert
    (key : String)
    (value : α) : List (String × α) → List (String × α)
  | [] => [(key, value)]
  | entry :: rest =>
      if key < entry.1 then
        (key, value) :: entry :: rest
      else if key = entry.1 then
        (key, value) :: rest
      else
        entry :: insert key value rest

/- Two different keys are in order one way or the other. -/
theorem lt_of_not_lt
    {a b : String}
    (hlt : ¬ a < b)
    (hne : a ≠ b) :
    b < a := by
  apply Classical.byContradiction
  intro h
  exact hne (String.le_antisymm (String.not_lt.mp h) (String.not_lt.mp hlt))

/- The keys after an insertion are those before and the new one. -/
theorem mem_insert
    {key : String}
    {value : α}
    {entries : List (String × α)}
    {entry : String × α}
    (h : entry ∈ insert key value entries) :
    entry = (key, value) ∨ entry ∈ entries := by
  induction entries with
  | nil => simpa [insert] using h
  | cons first rest ih =>
      simp only [insert] at h
      split at h
      · simpa using h
      · split at h
        · simp only [List.mem_cons] at h ⊢
          rcases h with h | h
          · exact Or.inl h
          · exact Or.inr (Or.inr h)
        · simp only [List.mem_cons] at h ⊢
          rcases h with h | h
          · exact Or.inr (Or.inl h)
          · rcases ih h with h | h
            · exact Or.inl h
            · exact Or.inr (Or.inr h)

/- Insertion keeps entries sorted. -/
theorem sorted_insert
    {key : String}
    {value : α}
    {entries : List (String × α)}
    (h : Sorted entries) :
    Sorted (insert key value entries) := by
  induction entries with
  | nil => simp [insert, Sorted]
  | cons first rest ih =>
      have hrest := List.pairwise_cons.mp h
      simp only [insert]
      split
      · rename_i hlt
        refine List.pairwise_cons.mpr ⟨?_, h⟩
        intro entry hmem
        rcases List.mem_cons.mp hmem with rfl | hmem
        · exact hlt
        · exact String.lt_trans hlt (hrest.1 entry hmem)
      · rename_i hlt
        split
        · rename_i heq
          refine List.pairwise_cons.mpr ⟨?_, hrest.2⟩
          intro entry hmem
          simpa [heq] using hrest.1 entry hmem
        · rename_i hne
          refine List.pairwise_cons.mpr ⟨?_, ih hrest.2⟩
          intro entry hmem
          rcases mem_insert hmem with rfl | hmem
          · exact lt_of_not_lt hlt hne
          · exact hrest.1 entry hmem

/- The value of a key after an insertion. -/
theorem get?_insert
    (key other : String)
    (value : α)
    (entries : List (String × α)) :
    get? other (insert key value entries) =
      if key = other then some value else get? other entries := by
  induction entries with
  | nil =>
      by_cases h : key = other <;> simp [insert, get?, h]
  | cons entry rest ih =>
      simp only [insert]
      split
      · by_cases h : key = other <;> simp [get?, h]
      · split
        · rename_i heq
          by_cases h : key = other <;> simp [get?, ← heq, h]
        · rename_i hne
          by_cases hEntry : entry.1 = other
          · have hOther : key ≠ other := fun h => hne (h.trans hEntry.symm)
            simp [get?, hEntry, hOther]
          · simpa [get?, hEntry] using ih

end Entries

------------------------------------------------------------
-- Dictionaries
------------------------------------------------------------

/- A finite map from texts, in the order of its keys. -/
structure Dict (α : Type) where
  entries : List (String × α)
  sorted : Entries.Sorted entries

namespace Dict

variable {α : Type}

/- Dictionaries with the same entries are equal. -/
theorem ext
    {a b : Dict α}
    (h : a.entries = b.entries) :
    a = b := by
  cases a
  cases b
  simp only at h
  subst h
  rfl

instance [DecidableEq α] : DecidableEq (Dict α) :=
  fun a b =>
    if h : a.entries = b.entries then
      isTrue (ext h)
    else
      isFalse fun hab => h (congrArg entries hab)

/- The dictionary without entries. -/
def empty : Dict α where
  entries := []
  sorted := List.Pairwise.nil

/- Whether a dictionary has no entries. -/
def isEmpty
    (d : Dict α) : Bool :=
  d.entries.isEmpty

/- The value of a key. -/
def get?
    (d : Dict α)
    (key : String) : Option α :=
  Entries.get? key d.entries

/- Whether a key has a value. -/
def contains
    (d : Dict α)
    (key : String) : Bool :=
  (d.get? key).isSome

/- Give a key a value, in place of any that it has. -/
def insert
    (d : Dict α)
    (key : String)
    (value : α) : Dict α where
  entries := Entries.insert key value d.entries
  sorted := Entries.sorted_insert d.sorted

/- The value of a key after an insertion. -/
theorem get?_insert
    (d : Dict α)
    (key other : String)
    (value : α) :
    (d.insert key value).get? other =
      if key = other then some value else d.get? other :=
  Entries.get?_insert key other value d.entries

/- Give a key a value unless it has one. -/
def insertNew
    (d : Dict α)
    (key : String)
    (value : α) : Dict α :=
  if d.contains key then d else d.insert key value

/- The dictionary of some entries, of which the last ones win. -/
def ofList
    (entries : List (String × α)) : Dict α :=
  entries.foldl (fun d entry => d.insert entry.1 entry.2) empty

end Dict

end Courier
