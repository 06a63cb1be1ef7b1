import Courier.Proofs.Outbox.Buffer
import Mathlib.Algebra.Order.Group.Multiset
import Mathlib.Data.List.DropRight
import Mathlib.Tactic.Abel

/-
  What a bounded buffer retains, whatever is done to it.  The
  latest items wait, as many as there is room for; an operation
  says which items made way, or how many; and no item that was
  handed in is lost or doubled on the way out.

  A course of a buffer keeps, beside the buffer, what was
  handed in, what was taken out, and what made way.

  Key definitions include:
    * `Buffer.Operation`, `Buffer.Answer`, `Buffer.perform`
    * `Buffer.Operation.content`, `Buffer.Operation.answer`
    * `Buffer.Course`, `Buffer.Course.run`
    * `Buffer.Course.Settled`

  Main statements:
    * `Buffer.perform_snd`, `Buffer.perform_fst`
    * `Buffer.Course.Settled.next`, `Buffer.Course.settled_run`
    * `Buffer.Course.latest_retained`
-/

namespace Courier

namespace Buffer

variable {α : Type}

------------------------------------------------------------
-- Operations
------------------------------------------------------------

/- What may be done to a buffer. -/
inductive Operation (α : Type) where
  | push (item : α)
  | takeAll
  | requeue (failed : List α)
  deriving DecidableEq, Repr

/- What an operation answers. -/
inductive Answer (α : Type) where
  /- The item that made way, if one did. -/
  | evicted (item : Option α)
  /- All items that waited. -/
  | taken (items : List α)
  /- How many items made way. -/
  | excess (count : Nat)
  deriving DecidableEq, Repr

/- Carry an operation out. -/
def perform
    (b : Buffer α) : Operation α → Answer α × Buffer α
  | .push item =>
      let (evicted, b) := b.push item
      (.evicted evicted, b)
  | .takeAll =>
      let (items, b) := b.takeAll
      (.taken items, b)
  | .requeue failed =>
      let (count, b) := b.requeue failed
      (.excess count, b)

/- The items that an answer hands out. -/
def Answer.items : Answer α → List α
  | taken items => items
  | _ => []

/- How many items made way, as far as an answer says. -/
def Answer.evictions : Answer α → Nat
  | evicted item => item.toList.length
  | taken _ => 0
  | excess count => count

namespace Operation

/- The items that an operation hands in. -/
def offered : Operation α → List α
  | push item => [item]
  | takeAll => []
  | requeue failed => failed

/- What would wait after an operation if there was room for all. -/
def content
    (waiting : List α) : Operation α → List α
  | push item => waiting ++ [item]
  | takeAll => []
  | requeue failed => failed ++ waiting

/-
  What an operation is to answer where some items wait and
  there is room for a number of them.
-/
def answer
    (room : Nat)
    (waiting : List α) : Operation α → Answer α
  | push _ =>
      .evicted (if waiting.length = room then waiting.head? else none)
  | takeAll => .taken waiting
  | requeue failed => .excess (waiting.length + failed.length - room)

end Operation

/- An operation fills the buffer anew with what is to wait. -/
theorem perform_snd
    (b : Buffer α)
    (operation : Operation α) :
    (b.perform operation).2 =
      (b.refill (operation.content b.items)).2 := by
  cases operation with
  | push item => rfl
  | takeAll => simp [perform, takeAll, refill, Operation.content]
  | requeue failed => exact requeue_snd b failed

/- A full buffer lets its oldest item make way for a new one. -/
theorem overflow_push
    (b : Buffer α)
    (item : α) :
    b.overflow (b.items ++ [item]) =
      (if b.items.length = b.capacity then b.items.head?
        else none).toList := by
  have hFits := b.fits
  have hRoom := b.room
  change
    (b.items ++ [item]).take ((b.items ++ [item]).length - b.capacity) = _
  by_cases hFull : b.items.length = b.capacity
  · have hExcess : (b.items ++ [item]).length - b.capacity = 1 := by
      simp only [List.length_append, List.length_singleton]
      omega
    obtain ⟨oldest, rest, hItems⟩ :
        ∃ oldest rest, b.items = oldest :: rest := by
      apply List.exists_cons_of_length_pos
      omega
    rw [if_pos hFull, hExcess, hItems]
    rfl
  · have hExcess : (b.items ++ [item]).length - b.capacity = 0 := by
      simp only [List.length_append, List.length_singleton]
      omega
    rw [if_neg hFull, hExcess]
    rfl

/- What a push answers is the oldest item of a full buffer. -/
theorem push_fst
    (b : Buffer α)
    (item : α) :
    (b.push item).1 =
      if b.items.length = b.capacity then b.items.head? else none := by
  have hSame :=
    (push_fst_toList b item).trans (overflow_push b item)
  simpa using congrArg List.head? hSame

/- Putting items back answers how many make way. -/
theorem requeue_fst
    (b : Buffer α)
    (failed : List α) :
    (b.requeue failed).1 =
      b.items.length + failed.length - b.capacity := by
  have hFits := b.fits
  cases failed with
  | nil =>
      have hNone : b.items.length - b.capacity = 0 := by omega
      exact hNone.symm
  | cons first rest =>
      have hCount :
          (b.requeue (first :: rest)).1 =
            (b.overflow (first :: rest ++ b.items)).length := rfl
      rw [hCount]
      simp only [overflow, refill, List.length_take,
        List.length_append]
      omega

/- Every operation answers as it is to. -/
theorem perform_fst
    (b : Buffer α)
    (operation : Operation α) :
    (b.perform operation).1 = operation.answer b.capacity b.items := by
  cases operation with
  | push item => exact congrArg Answer.evicted (push_fst b item)
  | takeAll => rfl
  | requeue failed =>
      exact congrArg Answer.excess (requeue_fst b failed)

/- What makes way for an operation is as much as its answer says. -/
theorem evictions_perform
    (b : Buffer α)
    (operation : Operation α) :
    (b.perform operation).1.evictions =
      (b.overflow (operation.content b.items)).length := by
  rw [perform_fst b]
  cases operation with
  | push item =>
      exact congrArg List.length (overflow_push b item).symm
  | takeAll =>
      simp [Operation.answer, Operation.content, Answer.evictions,
        overflow, refill]
  | requeue failed =>
      simp only [Operation.answer, Operation.content, Answer.evictions,
        overflow, refill, List.length_take, List.length_append]
      omega

------------------------------------------------------------
-- Courses
------------------------------------------------------------

/- A buffer, with all that went through it so far. -/
structure Course (α : Type) where
  buffer : Buffer α
  /- What was pushed or put back. -/
  offered : List α
  /- What was taken out. -/
  taken : List α
  /- What made way. -/
  dropped : List α

namespace Course

/- A buffer that nobody has used yet. -/
def start
    (capacity : Nat) : Course α where
  buffer := .create capacity
  offered := []
  taken := []
  dropped := []

/- Carry an operation out, and keep what goes in and out by it. -/
def next
    (c : Course α)
    (operation : Operation α) : Course α :=
  let (answer, buffer) := c.buffer.perform operation
  { buffer := buffer
    offered := c.offered ++ operation.offered
    taken := c.taken ++ answer.items
    dropped :=
      c.dropped ++
        (operation.content c.buffer.items).rdrop c.buffer.capacity }

/- Carry operations out, one after the other. -/
def run
    (capacity : Nat)
    (operations : List (Operation α)) : Course α :=
  operations.foldl next (start capacity)

/- What holds of a course at any time. -/
structure Settled
    (capacity : Nat)
    (c : Course α) : Prop where
  /- There is room for one item at least. -/
  room : c.buffer.capacity = max capacity 1
  /- All items that made way were counted. -/
  counted : c.buffer.evicted = c.dropped.length
  /- What went in is what went out, made way, or waits. -/
  conserved :
    (c.offered : Multiset α) =
      (c.taken : Multiset α) + (c.dropped : Multiset α) +
        (c.buffer.items : Multiset α)

theorem settled_start
    (capacity : Nat) :
    (start capacity : Course α).Settled capacity where
  room := rfl
  counted := rfl
  conserved := rfl

/-
  What an operation hands in and what waited before it, it
  hands out, or it waits if there is room for all.
-/
theorem content_conserved
    (b : Buffer α)
    (operation : Operation α) :
    (operation.offered : Multiset α) + (b.items : Multiset α) =
      ((b.perform operation).1.items : Multiset α) +
        (operation.content b.items : Multiset α) := by
  rw [Multiset.coe_add, Multiset.coe_add, Multiset.coe_eq_coe]
  cases operation with
  | push item => exact List.perm_append_comm
  | takeAll => exact List.perm_append_comm
  | requeue failed => exact List.Perm.refl _

/- An operation keeps all this. -/
theorem Settled.next
    {capacity : Nat}
    {c : Course α}
    (hSettled : c.Settled capacity)
    (operation : Operation α) :
    (c.next operation).Settled capacity := by
  have hFilled := perform_snd c.buffer operation
  constructor
  · change (c.buffer.perform operation).2.capacity = _
    rw [hFilled]
    exact hSettled.room
  · change (c.buffer.perform operation).2.evicted = _
    rw [hFilled, evicted_refill, hSettled.counted]
    exact List.length_append.symm
  · have hContent := content_conserved c.buffer operation
    have hSplit :
        (operation.content c.buffer.items : Multiset α) =
          ((operation.content c.buffer.items).rdrop
              c.buffer.capacity : Multiset α) +
            ((c.buffer.perform operation).2.items : Multiset α) := by
      rw [hFilled, Multiset.coe_add]
      exact congrArg _ (overflow_append_items c.buffer _).symm
    simp only [Course.next, ← Multiset.coe_add]
    rw [hSettled.conserved]
    calc
      _ = (c.taken : Multiset α) + (c.dropped : Multiset α) +
            ((operation.offered : Multiset α) +
              (c.buffer.items : Multiset α)) := by
        abel
      _ = _ := by
        rw [hContent, hSplit]
        abel

theorem settled_run
    (capacity : Nat)
    (operations : List (Operation α)) :
    (run capacity operations).Settled capacity := by
  induction operations using List.reverseRecOn with
  | nil => exact settled_start capacity
  | append_singleton earlier operation ih =>
      rw [run, List.foldl_append]
      exact ih.next operation

/-
  Whatever was done to a buffer before, and whatever is done
  to it next:
    * the latest items of what would wait if there was room
      for all do wait, as many as there is room for;
    * so no more items wait than there is room for, which is
      the capacity asked for, and one at least;
    * the answer is as it is to be: a push answers the oldest
      item if the buffer was full and none otherwise, taking
      all items answers them, and putting items back answers
      how many make way;
    * the items that make way are all others of what would
      wait, and they are as many as the answer says;
    * the count of the buffer is that of all items that ever
      made way;
    * each item that was ever pushed or put back, as often as
      it was, was taken out, made way, or waits.
-/
theorem latest_retained
    (capacity : Nat)
    (earlier : List (Operation α))
    (operation : Operation α) :
    let before : Course α := run capacity earlier
    let after := run capacity (earlier ++ [operation])
    let room := max capacity 1
    let content := operation.content before.buffer.items
    let answer := (before.buffer.perform operation).1
    after.buffer = (before.buffer.perform operation).2 ∧
      after.buffer.items = content.rtake room ∧
      after.buffer.items.length ≤ room ∧
      answer = operation.answer room before.buffer.items ∧
      after.dropped = before.dropped ++ content.rdrop room ∧
      answer.evictions = (content.rdrop room).length ∧
      after.buffer.evicted = after.dropped.length ∧
      (after.offered : Multiset α) =
        (after.taken : Multiset α) + (after.dropped : Multiset α) +
          (after.buffer.items : Multiset α) := by
  intro before after room content answer
  have hBefore : before.Settled capacity := settled_run capacity earlier
  have hAfter : after.Settled capacity := settled_run capacity _
  have hRoom : before.buffer.capacity = room := hBefore.room
  have hNext : after = before.next operation := by
    simp only [after, before, run, List.foldl_append, List.foldl_cons,
      List.foldl_nil]
  have hBuffer : after.buffer = (before.buffer.perform operation).2 := by
    rw [hNext]
    rfl
  refine ⟨hBuffer, ?_, ?_, ?_, ?_, ?_, hAfter.counted, hAfter.conserved⟩
  · rw [hBuffer, perform_snd, ← hRoom]
    rfl
  · exact after.buffer.fits.trans_eq hAfter.room
  · rw [← hRoom]
    exact perform_fst before.buffer operation
  · rw [hNext, ← hRoom]
    rfl
  · rw [← hRoom]
    exact evictions_perform before.buffer operation

/-
  More items are put back than there is room for: the oldest
  of them make way, and none of those that waited.
-/
example :
    (run 2
      [.push 1, .push 2, .takeAll, .push 3, .requeue [0, 1, 2]]).buffer =
      ⟨2, [2, 3], 2, by decide, by decide⟩ := by
  decide

end Course

end Buffer

end Courier
