/-
  This file defines the buffer of an outbox: items that wait
  for the store to come back, oldest first.  The buffer is
  bounded; items in excess are evicted, the oldest first, and
  counted.  There is no buffer without room for an item, or
  with more items than it has room for.

  Key definitions include:
    * `Buffer`
    * `Buffer.create`
    * `Buffer.push`
    * `Buffer.takeAll`
    * `Buffer.requeue`
-/

namespace Courier

/- Items that wait, oldest first. -/
@[ext]
structure Buffer (α : Type) where
  /- How many items may wait. -/
  capacity : Nat
  items : List α
  /- How many items were evicted so far. -/
  evicted : Nat
  room : 0 < capacity
  fits : items.length ≤ capacity
  deriving DecidableEq, Repr

namespace Buffer

variable {α : Type}

/- The buffer without items; it has room for one at least. -/
def create
    (capacity : Nat) : Buffer α where
  capacity := max capacity 1
  items := []
  evicted := 0
  room := by omega
  fits := Nat.zero_le _

/- How many items wait. -/
def length
    (b : Buffer α) : Nat :=
  b.items.length

/- Whether no item waits. -/
def isEmpty
    (b : Buffer α) : Bool :=
  b.items.isEmpty

/-
  Let the given items wait in place of those that do, and
  evict the oldest in excess.  The answer has the evicted
  items, oldest first.
-/
def refill
    (b : Buffer α)
    (items : List α) : List α × Buffer α :=
  let excess := items.length - b.capacity
  (items.take excess,
    { b with
      items := items.drop excess
      evicted := b.evicted + (items.take excess).length
      fits := by
        rw [List.length_drop]
        omega })

/- Let an item wait; the answer has the item evicted for it. -/
def push
    (b : Buffer α)
    (item : α) : Option α × Buffer α :=
  let (evicted, b) := b.refill (b.items ++ [item])
  (evicted.getLast?, b)

/- Take all items that wait. -/
def takeAll
    (b : Buffer α) : List α × Buffer α :=
  (b.items, { b with items := [], fits := Nat.zero_le _ })

/-
  Put items back ahead of those that wait.  The answer is how
  many items were evicted for it.
-/
def requeue
    (b : Buffer α)
    (failed : List α) : Nat × Buffer α :=
  if failed.isEmpty then
    (0, b)
  else
    let (evicted, b) := b.refill (failed ++ b.items)
    (evicted.length, b)

end Buffer

end Courier
