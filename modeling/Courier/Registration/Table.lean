import Courier.Registration.Key

/-
  This file defines tables, finite maps from the keys of
  subscriptions.  Nothing may depend on the order of the
  entries, which is that of their first insertion.

  Key definitions include:
    * `Registration.Table`
    * `Registration.Table.get?`
    * `Registration.Table.insert`
    * `Registration.Table.erase`

  The main statements give the value of any key after an
  insertion and after a removal.
-/

namespace Courier.Registration

------------------------------------------------------------
-- Entries
------------------------------------------------------------

namespace Entries

variable {α : Type}

/- The value of a key among some entries. -/
def get?
    (key : Key) : List (Key × α) → Option α
  | [] => none
  | entry :: rest =>
      if entry.1 = key then
        some entry.2
      else
        get? key rest

/- Give a key a value, in the place of the one that it has. -/
def insert
    (key : Key)
    (value : α) : List (Key × α) → List (Key × α)
  | [] => [(key, value)]
  | entry :: rest =>
      if entry.1 = key then
        (key, value) :: rest
      else
        entry :: insert key value rest

/- Take the entries of a key out. -/
def erase
    (key : Key)
    (entries : List (Key × α)) : List (Key × α) :=
  entries.filter fun entry => !decide (entry.1 = key)

/- The keys of entries are distinct. -/
def Distinct
    (entries : List (Key × α)) : Prop :=
  (entries.map (·.1)).Nodup

/- The keys after an insertion are those before and the new one. -/
theorem key_mem_insert
    {key other : Key}
    {value : α}
    {entries : List (Key × α)}
    (h : other ∈ (insert key value entries).map (·.1)) :
    other = key ∨ other ∈ entries.map (·.1) := by
  induction entries with
  | nil => simpa [insert] using h
  | cons entry rest ih =>
      simp only [insert] at h
      split at h
      · rename_i heq
        simp only [List.map_cons, List.mem_cons] at h ⊢
        rcases h with h | h
        · exact Or.inl h
        · exact Or.inr (Or.inr h)
      · simp only [List.map_cons, List.mem_cons] at h ⊢
        rcases h with h | h
        · exact Or.inr (Or.inl h)
        · rcases ih h with h | h
          · exact Or.inl h
          · exact Or.inr (Or.inr h)

/- Insertion keeps the keys distinct. -/
theorem distinct_insert
    {key : Key}
    {value : α}
    {entries : List (Key × α)}
    (h : Distinct entries) :
    Distinct (insert key value entries) := by
  induction entries with
  | nil => simp [insert, Distinct]
  | cons entry rest ih =>
      have hcons := List.nodup_cons.mp h
      simp only [insert]
      split
      · rename_i heq
        exact List.nodup_cons.mpr ⟨by simpa [heq] using hcons.1, hcons.2⟩
      · rename_i hne
        refine List.nodup_cons.mpr ⟨?_, ih hcons.2⟩
        intro hmem
        rcases key_mem_insert hmem with heq | hmem
        · exact hne heq
        · exact hcons.1 hmem

/- Removal keeps the keys distinct. -/
theorem distinct_erase
    {key : Key}
    {entries : List (Key × α)}
    (h : Distinct entries) :
    Distinct (erase key entries) :=
  h.sublist (List.filter_sublist.map _)

/- The value of a key after an insertion. -/
theorem get?_insert
    (key other : Key)
    (value : α)
    (entries : List (Key × α)) :
    get? other (insert key value entries) =
      if key = other then some value else get? other entries := by
  induction entries with
  | nil => simp [insert, get?]
  | cons entry rest ih =>
      simp only [insert]
      split
      · rename_i heq
        by_cases h : key = other
        · simp [get?, h]
        · simp [get?, heq, h]
      · rename_i hne
        by_cases h : entry.1 = other
        · have : key ≠ other := fun hko => hne (h.trans hko.symm)
          simp [get?, h, this]
        · simp [get?, h, ih]

/- The value of a key after a removal. -/
theorem get?_erase
    (key other : Key)
    (entries : List (Key × α)) :
    get? other (erase key entries) =
      if key = other then none else get? other entries := by
  induction entries with
  | nil => simp [erase, get?]
  | cons entry rest ih =>
      by_cases hkey : entry.1 = key
      · have : erase key (entry :: rest) = erase key rest := by
          simp [erase, hkey]
        rw [this, ih]
        by_cases h : key = other
        · simp [h]
        · simp [get?, hkey, h]
      · have : erase key (entry :: rest) = entry :: erase key rest := by
          simp [erase, hkey]
        rw [this]
        by_cases h : entry.1 = other
        · have : key ≠ other := fun hko => hkey (h.trans hko.symm)
          simp [get?, h, this]
        · simp [get?, h, ih]

end Entries

------------------------------------------------------------
-- Tables
------------------------------------------------------------

/- A finite map from keys of subscriptions. -/
structure Table (α : Type) where
  entries : List (Key × α)
  distinct : Entries.Distinct entries

namespace Table

variable {α : Type}

/- The table without entries. -/
def empty : Table α where
  entries := []
  distinct := List.nodup_nil

/- How many keys have a value. -/
def size
    (t : Table α) : Nat :=
  t.entries.length

/- The value of a key. -/
def get?
    (t : Table α)
    (key : Key) : Option α :=
  Entries.get? key t.entries

/- Whether a key has a value. -/
def contains
    (t : Table α)
    (key : Key) : Bool :=
  (t.get? key).isSome

/- Give a key a value, in place of any that it has. -/
def insert
    (t : Table α)
    (key : Key)
    (value : α) : Table α where
  entries := Entries.insert key value t.entries
  distinct := Entries.distinct_insert t.distinct

/- Take the value of a key away. -/
def erase
    (t : Table α)
    (key : Key) : Table α where
  entries := Entries.erase key t.entries
  distinct := Entries.distinct_erase t.distinct

/- The value of a key after an insertion. -/
theorem get?_insert
    (t : Table α)
    (key other : Key)
    (value : α) :
    (t.insert key value).get? other =
      if key = other then some value else t.get? other :=
  Entries.get?_insert key other value t.entries

/- The value of a key after a removal. -/
theorem get?_erase
    (t : Table α)
    (key other : Key) :
    (t.erase key).get? other =
      if key = other then none else t.get? other :=
  Entries.get?_erase key other t.entries

end Table

end Courier.Registration
