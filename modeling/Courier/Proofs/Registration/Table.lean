import Courier.Registration.Call
import Mathlib.Data.List.Nodup

/-
  This file shows that a table is the map of its values: its
  entries are the keys that have one, and two tables with the
  same values differ in the order of their entries only.

  Nobody may rely on that order.  A table that is read anew
  may have its entries in another one.

  Key definitions include:
    * `Table.Reordered`
    * `Registry.Reordered`

  Main statements:
    * `Table.mem_entries_iff`
    * `Table.count_bindings`
    * `Table.get?_eq_of_reordered`
    * `Table.reordered_of_get?_eq`
-/

namespace Courier.Registration

------------------------------------------------------------
-- Entries and values
------------------------------------------------------------

namespace Entries

variable {α : Type}

/- A value that is found stands among the entries. -/
theorem mem_of_get?_eq_some
    {key : Key}
    {value : α}
    {entries : List (Key × α)}
    (hFound : get? key entries = some value) :
    (key, value) ∈ entries := by
  induction entries with
  | nil => simp [get?] at hFound
  | cons entry rest ih =>
      by_cases hKey : entry.1 = key
      · have hValue : entry.2 = value := by
          simpa [get?, hKey] using hFound
        rw [← hKey, ← hValue]
        exact List.mem_cons_self
      · have hRest : get? key rest = some value := by
          simpa [get?, hKey] using hFound
        exact List.mem_cons_of_mem entry (ih hRest)

/- Among distinct keys an entry is found under its own. -/
theorem get?_eq_some_of_mem
    {key : Key}
    {value : α}
    {entries : List (Key × α)}
    (hDistinct : Distinct entries)
    (hMem : (key, value) ∈ entries) :
    get? key entries = some value := by
  induction entries with
  | nil => simp at hMem
  | cons entry rest ih =>
      have hCons := List.nodup_cons.mp hDistinct
      rcases List.mem_cons.mp hMem with hHead | hRest
      · simp [get?, ← hHead]
      · have hOther : entry.1 ≠ key := by
          intro hKey
          have hAgain : key ∈ rest.map (·.1) :=
            List.mem_map_of_mem hRest
          rw [← hKey] at hAgain
          exact hCons.1 hAgain
        simp only [get?, if_neg hOther]
        exact ih hCons.2 hRest

end Entries

namespace Table

variable {α : Type}

/- The entries of a table are the keys that have a value. -/
theorem mem_entries_iff
    (t : Table α)
    (key : Key)
    (value : α) :
    (key, value) ∈ t.entries ↔ t.get? key = some value := by
  constructor
  · exact Entries.get?_eq_some_of_mem t.distinct
  · exact Entries.mem_of_get?_eq_some

/- The entries of a table are distinct, as their keys are. -/
theorem entries_nodup
    (t : Table α) :
    t.entries.Nodup :=
  List.Nodup.of_map _ t.distinct

/- A list of distinct entries with the values of a table is its own. -/
theorem entries_perm
    {t : Table α}
    {entries : List (Key × α)}
    (hNodup : entries.Nodup)
    (hValues :
      ∀ key value,
        (key, value) ∈ entries ↔ t.get? key = some value) :
    t.entries.Perm entries := by
  apply (List.perm_ext_iff_of_nodup t.entries_nodup hNodup).mpr
  intro entry
  exact (t.mem_entries_iff entry.1 entry.2).trans (hValues entry.1 entry.2).symm

/- The entries but for one key, beside a value of that key. -/
theorem nodup_cons_erase
    (t : Table α)
    (key : Key)
    (value : α) :
    ((key, value) :: (t.erase key).entries).Nodup := by
  apply List.nodup_cons.mpr
  refine ⟨?_, (t.erase key).entries_nodup⟩
  rw [mem_entries_iff, get?_erase, if_pos rfl]
  exact nofun

/- A table is what an insertion put in, beside all other keys. -/
theorem entries_insert_perm
    (t : Table α)
    (key : Key)
    (value : α) :
    (t.insert key value).entries.Perm
      ((key, value) :: (t.erase key).entries) := by
  apply entries_perm (t.nodup_cons_erase key value)
  intro other v
  rw [List.mem_cons, mem_entries_iff, get?_insert, get?_erase]
  by_cases hKey : key = other
  · simp [hKey, eq_comm]
  · simp [hKey, Ne.symm hKey]

/- A table is the value of a key, beside all other keys. -/
theorem entries_perm_of_get?_eq_some
    {t : Table α}
    {key : Key}
    {value : α}
    (hFound : t.get? key = some value) :
    t.entries.Perm ((key, value) :: (t.erase key).entries) := by
  apply entries_perm (t.nodup_cons_erase key value)
  intro other v
  rw [List.mem_cons, mem_entries_iff, get?_erase]
  by_cases hKey : key = other
  · simp [← hKey, hFound, eq_comm]
  · simp [hKey, Ne.symm hKey]

/- A table without a value for a key is all other keys. -/
theorem entries_perm_of_get?_eq_none
    {t : Table α}
    {key : Key}
    (hFree : t.get? key = none) :
    t.entries.Perm (t.erase key).entries := by
  apply entries_perm (t.erase key).entries_nodup
  intro other v
  rw [mem_entries_iff, get?_erase]
  by_cases hKey : key = other
  · simp [← hKey, hFree]
  · simp [hKey]

/-
  Of the subscriptions whose keys are chosen, at most one has
  the binding of a given one: that one itself.
-/
theorem count_bindings
    {H B : Type}
    [DecidableEq H]
    [DecidableEq B]
    {t : Table (Subscription H B)}
    (chosen : Key → Bool)
    {key : Key}
    {v : Subscription H B}
    (hOnly :
      ∀ {key' v'}, t.get? key' = some v' → v'.binding = v.binding →
        key' = key ∧ v' = v) :
    ((t.entries.filter fun entry => chosen entry.1).map
        (·.2.binding)).count v.binding =
      if t.get? key = some v ∧ chosen key = true then 1 else 0 := by
  let kept := t.entries.filter fun entry => chosen entry.1
  have hNodup : kept.Nodup := t.entries_nodup.filter _
  have hEntry :
      ∀ entry ∈ kept, entry.2.binding = v.binding ↔ entry = (key, v) := by
    rintro ⟨key', v'⟩ hMember
    have hFound :=
      (t.mem_entries_iff key' v').mp (List.mem_filter.mp hMember).1
    constructor
    · intro hSame
      rcases hOnly hFound hSame with ⟨rfl, rfl⟩
      rfl
    · intro hSame
      cases hSame
      rfl
  have hCount :
      (kept.map (·.2.binding)).count v.binding = kept.count (key, v) := by
    rw [List.count, List.count, List.countP_map]
    apply List.countP_congr
    intro entry hMember
    simpa using hEntry entry hMember
  have hKept :
      (key, v) ∈ kept ↔ t.get? key = some v ∧ chosen key = true := by
    rw [List.mem_filter, mem_entries_iff]
  change (kept.map (·.2.binding)).count v.binding = _
  rw [hCount, hNodup.count]
  simp only [hKept]

------------------------------------------------------------
-- Tables in another order
------------------------------------------------------------

/- The same entries, in any order. -/
def Reordered
    (t u : Table α) : Prop :=
  t.entries.Perm u.entries

theorem reordered_refl
    (t : Table α) :
    t.Reordered t :=
  List.Perm.refl t.entries

/- Another order of the entries gives no key another value. -/
theorem get?_eq_of_reordered
    {t u : Table α}
    (hReordered : t.Reordered u)
    (key : Key) :
    u.get? key = t.get? key := by
  ext value
  rw [← mem_entries_iff, ← mem_entries_iff]
  exact hReordered.symm.mem_iff

/-
  A list of distinct keys with the values that a table has for
  them, none left out, is a table itself: the same one in
  another order.
-/
theorem exists_reordered
    {t : Table α}
    {entries : List (Key × α)}
    (hDistinct : Entries.Distinct entries)
    (hValues :
      ∀ key value,
        (key, value) ∈ entries ↔ t.get? key = some value) :
    ∃ u : Table α, t.Reordered u ∧ u.entries = entries := by
  have hNodup : entries.Nodup := List.Nodup.of_map _ hDistinct
  exact ⟨⟨entries, hDistinct⟩, entries_perm hNodup hValues, rfl⟩

end Table

------------------------------------------------------------
-- Registries in another order
------------------------------------------------------------

namespace Registry

variable {H B : Type}

/- The same registry, its entries in any order. -/
def Reordered
    (r s : Registry H B) : Prop :=
  r.table.Reordered s.table ∧ r.poisoned = s.poisoned

theorem reordered_refl
    (r : Registry H B) :
    r.Reordered r :=
  ⟨r.table.reordered_refl, rfl⟩

end Registry

end Courier.Registration
