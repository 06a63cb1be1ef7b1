import Courier.Outbox.Buffer

/-
  Laws of the buffer of an outbox.  Its operations fill it
  anew, and none of them loses an item without counting it.

  Key definitions include:
    * `Buffer.overflow`
    * `Buffer.without`

  Main statements:
    * `Buffer.overflow_append_items`
    * `Buffer.push_fst_toList`
    * `Buffer.requeue_snd`, `Buffer.requeue_taken`
-/

namespace Courier

namespace Buffer

variable {α : Type}

------------------------------------------------------------
-- Filling anew
------------------------------------------------------------

/- The items that make way when the given items are to wait. -/
def overflow
    (b : Buffer α)
    (items : List α) : List α :=
  (b.refill items).1

/- The buffer without the first items that wait. -/
def without
    (b : Buffer α)
    (count : Nat) : Buffer α :=
  { b with
    items := b.items.drop count
    fits := Nat.le_trans (List.drop_sublist ..).length_le b.fits }

@[simp]
theorem items_without
    (b : Buffer α)
    (count : Nat) :
    (b.without count).items = b.items.drop count :=
  rfl

/- What makes way and what waits are what was to wait. -/
theorem overflow_append_items
    (b : Buffer α)
    (items : List α) :
    b.overflow items ++ (b.refill items).2.items = items := by
  simp [overflow, refill]

/- What makes way is counted. -/
theorem evicted_refill
    (b : Buffer α)
    (items : List α) :
    (b.refill items).2.evicted =
      b.evicted + (b.overflow items).length := by
  simp [overflow, refill]

/- A buffer that is filled with what it holds stays as it is. -/
theorem refill_items
    (b : Buffer α) :
    (b.refill b.items).2 = b := by
  have hExcess : b.items.length - b.capacity = 0 :=
    Nat.sub_eq_zero_of_le b.fits
  ext1
  · rfl
  · simp [refill, hExcess]
  · simp [refill, hExcess]

------------------------------------------------------------
-- Operations
------------------------------------------------------------

/- Pushing fills the buffer anew. -/
theorem push_snd
    (b : Buffer α)
    (item : α) :
    (b.push item).2 = (b.refill (b.items ++ [item])).2 :=
  rfl

/- A push answers with all items that make way, one at most. -/
theorem push_fst_toList
    (b : Buffer α)
    (item : α) :
    (b.push item).1.toList = b.overflow (b.items ++ [item]) := by
  have hFits := b.fits
  have hLength : (b.overflow (b.items ++ [item])).length ≤ 1 := by
    simp only [overflow, refill, List.length_take,
      List.length_append, List.length_singleton]
    omega
  have hPush :
      (b.push item).1 =
        (b.overflow (b.items ++ [item])).getLast? := rfl
  rw [hPush]
  match h : b.overflow (b.items ++ [item]) with
  | [] => rfl
  | [oldest] => rfl
  | oldest :: next :: rest =>
      rw [h] at hLength
      simp at hLength

/- Putting items back fills the buffer anew. -/
theorem requeue_snd
    (b : Buffer α)
    (failed : List α) :
    (b.requeue failed).2 =
      (b.refill (failed ++ b.items)).2 := by
  cases failed with
  | nil => exact (refill_items b).symm
  | cons first rest => rfl

/- What is put back of the items taken waits as it did before. -/
theorem requeue_taken
    (b : Buffer α)
    (count : Nat) :
    (b.takeAll.2.requeue (b.items.drop count)).2 = b.without count := by
  rw [requeue_snd]
  have hRefill := refill_items (b.without count)
  simpa [takeAll, refill, without] using hRefill

end Buffer

end Courier
