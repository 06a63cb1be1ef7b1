import Courier.Proofs.Registration.Handlers
import Mathlib.Tactic.Abel

/-
  No subscription goes without its handler being cancelled
  for it.  Each binding that is made for a handler makes one
  cancelling of that handler due, for as long as the lock on
  the table is not left poisoned: the handler is about to be
  put in, is in the table, is about to be cancelled, or was
  cancelled once more.

  A call may cancel a handler that it found before it takes
  it out of the table.  That cancelling came in advance, and
  the handler goes for it later, if it is still there.

  Key definitions include:
    * `Happening.served?`, `Happening.cancelled?`
    * `Registry.handlers`
    * `Call.due`, `Call.advanced`

  Main statements:
    * `Call.due_accessed`, `Call.due_goes`
-/

namespace Courier.Registration

variable {H B : Type}

------------------------------------------------------------
-- Handlers that are due to be cancelled
------------------------------------------------------------

/- The handler that a callback made a binding for. -/
def Happening.served? : Happening H B → Option H
  | .bind _ handler (.ok _) => some handler
  | _ => none

/- The handler that a callback cancelled, or failed to. -/
def Happening.cancelled? : Happening H B → Option H
  | .cancel handler _ => some handler
  | _ => none

/- The handlers of the subscriptions in a registry. -/
def Registry.handlers
    (r : Registry H B) : Multiset H :=
  r.parts (·.handler)

section Registry

variable {r : Registry H B} {key : Key} {s : Subscription H B}

theorem handlers_insert_of_none
    (hFree : r.table.get? key = none)
    (v : Subscription H B)
    (poisoned : Bool) :
    Registry.handlers ⟨r.table.insert key v, poisoned⟩ =
      {v.handler} + r.handlers :=
  parts_insert_of_none (·.handler) hFree v poisoned

theorem handlers_insert_of_some
    (hFound : r.table.get? key = some s)
    (v : Subscription H B)
    (poisoned : Bool) :
    {s.handler} + Registry.handlers ⟨r.table.insert key v, poisoned⟩ =
      {v.handler} + r.handlers :=
  parts_insert_of_some (·.handler) hFound v poisoned

theorem handlers_erase_of_some
    (hFound : r.table.get? key = some s)
    (poisoned : Bool) :
    {s.handler} + Registry.handlers ⟨r.table.erase key, poisoned⟩ =
      r.handlers :=
  parts_erase_of_some (·.handler) hFound poisoned

end Registry

namespace Call

/- The handlers that a call is to put in, or took out to cancel. -/
def due : Call H B → Multiset H
  | accessing (.install _ handler _ _) => {handler}
  | c => ↑(c.leaving.map (·.handler))

/- The handler that a call cancelled before taking it out. -/
def advanced : Call H B → Multiset H
  | accessing (.install _ _ _ old) => ↑old.toList
  | accessing (.retract _ old _) => {old}
  | binding _ _ old => ↑old.toList
  | _ => 0

/- A call that starts has nobody to cancel. -/
theorem due_start
    (request : Request H) :
    (start request : Call H B).due = 0 ∧
      (start request : Call H B).advanced = 0 := by
  cases request with
  | subscribe key handler =>
      simp only [start, checked]
      split
      · exact ⟨rfl, rfl⟩
      · exact ⟨rfl, rfl⟩
  | unsubscribe key =>
      simp only [start, checked]
      split
      · exact ⟨rfl, rfl⟩
      · exact ⟨rfl, rfl⟩
  | clear => exact ⟨rfl, rfl⟩

/- All drained subscriptions are to be cancelled. -/
theorem due_giveUp
    (drained : List (Subscription H B)) :
    (giveUp drained).due = ↑(drained.map (·.handler)) ∧
      (giveUp drained).advanced = 0 := by
  cases drained with
  | nil => exact ⟨rfl, rfl⟩
  | cons s rest => exact ⟨rfl, rfl⟩

/-
  A subscription that had to make room is cancelled, unless
  it was in advance.
-/
theorem due_replaced
    [DecidableEq H]
    (old : Option H)
    (s : Subscription H B) :
    {s.handler} ≤ (replaced old s).due + ↑old.toList ∧
      (replaced old s).advanced = 0 := by
  unfold replaced
  split
  · rename_i hSame
    subst hSame
    exact ⟨Multiset.le_add_left _ _, rfl⟩
  · exact ⟨Multiset.le_add_right _ _, rfl⟩

/-
  A handler that is cancelled is due no more, or was cancelled
  in advance.
-/
theorem due_cancelled
    (handler : H)
    (next : AfterCancel H B)
    (outcome : Except String Unit) :
    (cancelling handler next).due +
        (cancelled handler next outcome).advanced ≤
      {handler} + (cancelled handler next outcome).due := by
  cases next with
  | bind key new =>
      rcases outcome with detail | ⟨⟩
      · exact Multiset.zero_le _
      · exact (add_comm _ _).le
  | unbindReplaced b => exact le_rfl
  | unbindRemoved b => exact le_rfl
  | unbindDrained b rest =>
      let others : Multiset H := ↑(rest.map (·.handler))
      have hSame : handler ::ₘ others + 0 = {handler} + others := by
        rw [add_zero, Multiset.singleton_add]
      exact hSame.le

------------------------------------------------------------
-- Steps of a call
------------------------------------------------------------

section Goes

variable [DecidableEq H]
variable {r r' : Registry H B}

/-
  An access lets no handler go that is not to be cancelled
  then, or was in advance.
-/
theorem due_accessed
    {a : Access H B}
    {c : Call H B}
    (hAccessed : Accessed r a c r')
    (hUsable : r.poisoned = false) :
    r.handlers + (accessing a).due + c.advanced ≤
      r'.handlers + c.due + (accessing a).advanced := by
  cases hAccessed with
  | refused a hPoisoned =>
      rw [hUsable] at hPoisoned
      cases hPoisoned
  | free hFree => exact le_rfl
  | taken hTaken => exact le_rfl
  | @added key handler b old hFree =>
      have hSame :
          r.handlers + {handler} + 0 =
            Registry.handlers ⟨r.table.insert key ⟨handler, b⟩, false⟩ +
              0 := by
        rw [handlers_insert_of_none hFree]
        abel
      exact hSame.trans_le (Multiset.le_add_right _ _)
  | @replaced key handler b old s hTaken =>
      have hInsert := handlers_insert_of_some hTaken ⟨handler, b⟩ false
      rcases due_replaced old s with ⟨hDue, hAdvanced⟩
      rw [hAdvanced]
      calc
        r.handlers + {handler} + 0 =
            {s.handler} +
              Registry.handlers ⟨r.table.insert key ⟨handler, b⟩, false⟩ := by
          rw [hInsert]
          abel
        _ ≤ (replaced old s).due + ↑old.toList +
              Registry.handlers ⟨r.table.insert key ⟨handler, b⟩, false⟩ :=
          Multiset.add_le_add_right hDue
        _ = Registry.handlers ⟨r.table.insert key ⟨handler, b⟩, false⟩ +
              (replaced old s).due + ↑old.toList := by
          abel
  | @retracted key fault s hTaken =>
      have hSame :
          r.handlers + 0 + 0 =
            Registry.handlers ⟨r.table.erase key, false⟩ + 0 +
              {s.handler} := by
        rw [← handlers_erase_of_some hTaken false]
        abel
      exact hSame.le
  | kept hOther =>
      exact (add_zero _).le.trans (Multiset.le_add_right _ _)
  | @removed key s hTaken =>
      have hSame :
          r.handlers + 0 + 0 =
            Registry.handlers ⟨r.table.erase key, false⟩ +
              {s.handler} + 0 := by
        rw [← handlers_erase_of_some hTaken false]
        abel
      exact hSame.le
  | missing hFree => exact le_rfl
  | drained =>
      rcases due_giveUp (r.table.entries.map (·.2)) with
        ⟨hDue, hAdvanced⟩
      rw [hDue, hAdvanced, List.map_map]
      have hSame :
          r.handlers + 0 + 0 = 0 + r.handlers + (0 : Multiset H) := by
        abel
      exact hSame.le

/-
  A step makes a handler due by making a binding for it, and
  lets no other handler go than it cancels, or than was
  cancelled in advance.
-/
theorem due_goes
    {c c' : Call H B}
    {happening : Option (Happening H B)}
    (hGoes : c.Goes r happening c' r')
    (hUsable : r.poisoned = false) :
    ((happening.bind Happening.served?).toList : Multiset H) +
        (r.handlers + c.due + c'.advanced) ≤
      ((happening.bind Happening.cancelled?).toList : Multiset H) +
        (r'.handlers + c'.due + c.advanced) := by
  cases hGoes with
  | access a =>
      exact add_le_add le_rfl (due_accessed (accessed a r) hUsable)
  | cancel handler next outcome =>
      have hDue := due_cancelled handler next outcome
      calc
        0 + (r.handlers + (cancelling handler next).due +
              (cancelled handler next outcome).advanced) =
            (cancelling handler next).due +
                (cancelled handler next outcome).advanced +
              r.handlers := by
          abel
        _ ≤ {handler} + (cancelled handler next outcome).due +
              r.handlers :=
          Multiset.add_le_add_right hDue
        _ = {handler} +
              (r.handlers + (cancelled handler next outcome).due + 0) := by
          abel
  | bind key handler old outcome =>
      cases outcome with
      | ok b =>
          have hSame :
              {handler} + (r.handlers + 0 + ↑old.toList) =
                0 + (r.handlers + {handler} + ↑old.toList) := by
            abel
          exact hSame.le
      | error fault =>
          cases old with
          | none => exact le_rfl
          | some h => exact le_rfl
  | unbind b next outcome =>
      cases next with
      | answer result => exact le_rfl
      | report cancelled =>
          rcases cancelled with fault | ⟨⟩
          · exact le_rfl
          · exact le_rfl
      | goOn rest =>
          rcases due_giveUp rest with ⟨hDue, hAdvanced⟩
          simp only [unbound, hDue, hAdvanced]
          exact le_rfl

end Goes

end Call

end Courier.Registration
