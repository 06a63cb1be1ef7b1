import Courier.Proofs.Registration.Table
import Courier.Registration.Run
import Mathlib.Algebra.BigOperators.Group.Multiset.Basic

/-
  This file says what a call on a registry has in hand at each
  of its stages, and what one step does to it.

  A call owns the bindings that it is about to install or to
  give up.  No access to a table makes or loses a binding: it
  only moves from the call to the table, or back.

  A call that subscribes a handler returns without a fault
  only after the handler was put in.

  Key definitions include:
    * `Registry.bindings`, `Registry.parts`
    * `Call.owned`
    * `Accessed`
    * `Call.unplaced?`
    * `Call.Subscribes`

  Main statements:
    * `Call.owned_accessed`, `Call.owned_cancelled`,
      `Call.owned_unbound`
    * `Call.get?_accessed`
    * `Call.Subscribes.step`
-/

namespace Courier.Registration

variable {H B : Type}

------------------------------------------------------------
-- Bindings in hand
------------------------------------------------------------

/- The bindings of some subscriptions. -/
def bindingsOf
    (subscriptions : List (Subscription H B)) : Multiset B :=
  ↑(subscriptions.map (·.binding))

/- The bindings of the subscriptions in a registry. -/
def Registry.bindings
    (r : Registry H B) : Multiset B :=
  bindingsOf (r.table.entries.map (·.2))

/- The binding that an access is about to put in. -/
def Access.owned : Access H B → Multiset B
  | .install _ _ b _ => {b}
  | _ => 0

/- The bindings to give up after a handler was cancelled. -/
def AfterCancel.owned : AfterCancel H B → Multiset B
  | .bind _ _ => 0
  | .unbindReplaced b => {b}
  | .unbindRemoved b => {b}
  | .unbindDrained b rest => b ::ₘ bindingsOf rest

/- The bindings to give up after another one was given up. -/
def AfterUnbind.owned : AfterUnbind H B → Multiset B
  | .goOn rest => bindingsOf rest
  | _ => 0

namespace Call

/- The bindings that a call is about to install or to give up. -/
def owned : Call H B → Multiset B
  | accessing a => a.owned
  | cancelling _ next => next.owned
  | binding _ _ _ => 0
  | unbinding b next => b ::ₘ next.owned
  | done _ => 0

/- A call that starts has nothing in hand. -/
theorem owned_start
    (request : Request H) :
    (start request : Call H B).owned = 0 := by
  cases request with
  | subscribe key handler =>
      simp only [start, checked]
      split
      · rfl
      · rfl
  | unsubscribe key =>
      simp only [start, checked]
      split
      · rfl
      · rfl
  | clear => rfl

/- A call that gives drained subscriptions up owns them all. -/
theorem owned_giveUp
    (drained : List (Subscription H B)) :
    (giveUp drained).owned = bindingsOf drained := by
  cases drained with
  | nil => rfl
  | cons s rest => rfl

/- A call owns what it is going to put in the place of another. -/
theorem owned_replaced
    [DecidableEq H]
    (old : Option H)
    (s : Subscription H B) :
    (replaced old s).owned = {s.binding} := by
  unfold replaced
  split
  · rfl
  · rfl

end Call

section Moving

variable {M : Type}
variable {r : Registry H B}
variable {key : Key}
variable {s : Subscription H B}

/- A part of each subscription in a registry. -/
def Registry.parts
    (part : Subscription H B → M)
    (r : Registry H B) : Multiset M :=
  ↑(r.table.entries.map fun entry => part entry.2)

/- The parts of a registry after one subscription was replaced. -/
theorem parts_insert_of_some
    (part : Subscription H B → M)
    (hFound : r.table.get? key = some s)
    (v : Subscription H B)
    (poisoned : Bool) :
    part s ::ₘ
        Registry.parts part ⟨r.table.insert key v, poisoned⟩ =
      part v ::ₘ r.parts part := by
  have hAfter :=
    (r.table.entries_insert_perm key v).map fun entry => part entry.2
  have hBefore :=
    (Table.entries_perm_of_get?_eq_some hFound).map fun entry =>
      part entry.2
  unfold Registry.parts
  rw [Multiset.coe_eq_coe.mpr hAfter, Multiset.coe_eq_coe.mpr hBefore]
  simp only [List.map_cons, ← Multiset.cons_coe]
  exact Multiset.cons_swap (part s) (part v) _

/- The parts of a registry after one subscription was added. -/
theorem parts_insert_of_none
    (part : Subscription H B → M)
    (hFree : r.table.get? key = none)
    (v : Subscription H B)
    (poisoned : Bool) :
    Registry.parts part ⟨r.table.insert key v, poisoned⟩ =
      part v ::ₘ r.parts part := by
  have hAfter :=
    (r.table.entries_insert_perm key v).map fun entry => part entry.2
  have hBefore :=
    (Table.entries_perm_of_get?_eq_none hFree).map fun entry =>
      part entry.2
  unfold Registry.parts
  rw [Multiset.coe_eq_coe.mpr hAfter, Multiset.coe_eq_coe.mpr hBefore]
  rfl

/- The parts of a registry after one subscription was taken out. -/
theorem parts_erase_of_some
    (part : Subscription H B → M)
    (hFound : r.table.get? key = some s)
    (poisoned : Bool) :
    part s ::ₘ Registry.parts part ⟨r.table.erase key, poisoned⟩ =
      r.parts part := by
  have hBefore :=
    (Table.entries_perm_of_get?_eq_some hFound).map fun entry =>
      part entry.2
  unfold Registry.parts
  rw [Multiset.coe_eq_coe.mpr hBefore]
  rfl

/- Another order of the entries leaves the parts as they are. -/
theorem parts_eq_of_reordered
    (part : Subscription H B → M)
    {r' : Registry H B}
    (hReordered : r.Reordered r') :
    r'.parts part = r.parts part := by
  have hPerm := hReordered.1.map fun entry => part entry.2
  exact (Multiset.coe_eq_coe.mpr hPerm).symm

/- The bindings are a part of the subscriptions. -/
theorem bindings_eq_parts
    (r : Registry H B) :
    r.bindings = r.parts (·.binding) := by
  simp only [Registry.bindings, bindingsOf, Registry.parts, List.map_map,
    Function.comp_def]

/- The bindings of a registry after one was put in its place. -/
theorem bindings_insert_of_some
    (hFound : r.table.get? key = some s)
    (v : Subscription H B)
    (poisoned : Bool) :
    s.binding ::ₘ
        Registry.bindings ⟨r.table.insert key v, poisoned⟩ =
      v.binding ::ₘ r.bindings := by
  rw [bindings_eq_parts, bindings_eq_parts]
  exact parts_insert_of_some (·.binding) hFound v poisoned

/- The bindings of a registry after one was added. -/
theorem bindings_insert_of_none
    (hFree : r.table.get? key = none)
    (v : Subscription H B)
    (poisoned : Bool) :
    Registry.bindings ⟨r.table.insert key v, poisoned⟩ =
      v.binding ::ₘ r.bindings := by
  rw [bindings_eq_parts, bindings_eq_parts]
  exact parts_insert_of_none (·.binding) hFree v poisoned

/- The bindings of a registry after one was taken out. -/
theorem bindings_erase_of_some
    (hFound : r.table.get? key = some s)
    (poisoned : Bool) :
    s.binding ::ₘ Registry.bindings ⟨r.table.erase key, poisoned⟩ =
      r.bindings := by
  rw [bindings_eq_parts, bindings_eq_parts]
  exact parts_erase_of_some (·.binding) hFound poisoned

/- The subscription of a key has its binding in the registry. -/
theorem mem_bindings_of_get?_eq_some
    (hFound : r.table.get? key = some s) :
    s.binding ∈ r.bindings := by
  rw [← bindings_erase_of_some hFound r.poisoned]
  exact Multiset.mem_cons_self _ _

/- Another order of the entries leaves the bindings as they are. -/
theorem bindings_eq_of_reordered
    {r' : Registry H B}
    (hReordered : r.Reordered r') :
    r'.bindings = r.bindings := by
  rw [bindings_eq_parts, bindings_eq_parts]
  exact parts_eq_of_reordered (·.binding) hReordered

end Moving

------------------------------------------------------------
-- Accesses
------------------------------------------------------------

/- Where a call stands whose access was refused. -/
def Access.refused : Access H B → Call H B
  | .find _ _ => .done (.error (.lockPoisoned "subscribe"))
  | .install _ _ b _ =>
      .unbinding b (.answer (.error (.lockPoisoned "subscribe")))
  | .retract _ _ fault => .done (.error fault)
  | .remove _ => .done (.error (.lockPoisoned "unsubscribe"))
  | .drain => .done (.error (.lockPoisoned "clear"))

/- All that an access to a registry can come to. -/
inductive Accessed
    [DecidableEq H]
    (r : Registry H B) :
    Access H B → Call H B → Registry H B → Prop where
  | refused
      (a : Access H B)
      (hPoisoned : r.poisoned = true) :
      Accessed r a a.refused r
  | free
      {key : Key}
      {handler : H}
      (hFree : r.table.get? key = none) :
      Accessed r (.find key handler) (.binding key handler none) r
  | taken
      {key : Key}
      {handler : H}
      {s : Subscription H B}
      (hTaken : r.table.get? key = some s) :
      Accessed r (.find key handler)
        (.cancelling s.handler (.bind key handler)) r
  | added
      {key : Key}
      {handler : H}
      {b : B}
      {old : Option H}
      (hFree : r.table.get? key = none) :
      Accessed r (.install key handler b old) (.done (.ok ()))
        ⟨r.table.insert key ⟨handler, b⟩, false⟩
  | replaced
      {key : Key}
      {handler : H}
      {b : B}
      {old : Option H}
      {s : Subscription H B}
      (hTaken : r.table.get? key = some s) :
      Accessed r (.install key handler b old) (.replaced old s)
        ⟨r.table.insert key ⟨handler, b⟩, false⟩
  | retracted
      {key : Key}
      {fault : Fault}
      {s : Subscription H B}
      (hTaken : r.table.get? key = some s) :
      Accessed r (.retract key s.handler fault)
        (.unbinding s.binding (.answer (.error fault)))
        ⟨r.table.erase key, false⟩
  | kept
      {key : Key}
      {old : H}
      {fault : Fault}
      (hOther : ∀ s, r.table.get? key = some s → s.handler ≠ old) :
      Accessed r (.retract key old fault) (.done (.error fault)) r
  | removed
      {key : Key}
      {s : Subscription H B}
      (hTaken : r.table.get? key = some s) :
      Accessed r (.remove key)
        (.cancelling s.handler (.unbindRemoved s.binding))
        ⟨r.table.erase key, false⟩
  | missing
      {key : Key}
      (hFree : r.table.get? key = none) :
      Accessed r (.remove key) (.done (.error .notSubscribed)) r
  | drained :
      Accessed r .drain (.giveUp (r.table.entries.map (·.2)))
        ⟨.empty, false⟩

namespace Call

/- A call whose access was refused owns what it owned. -/
theorem owned_refused
    (a : Access H B) :
    a.refused.owned = a.owned := by
  cases a with
  | find key handler => rfl
  | install key handler b old => rfl
  | retract key old fault => rfl
  | remove key => rfl
  | drain => rfl

section Accesses

variable [DecidableEq H]

/- An access is refused when the lock was left poisoned. -/
theorem access_of_poisoned
    {r : Registry H B}
    (hPoisoned : r.poisoned = true)
    (a : Access H B) :
    access a r = (a.refused, r) := by
  rcases r with ⟨t, poisoned⟩
  cases hPoisoned
  cases a with
  | find key handler => rfl
  | install key handler b old => rfl
  | retract key old fault => rfl
  | remove key => rfl
  | drain => rfl

/- What an access comes to. -/
theorem accessed
    (a : Access H B)
    (r : Registry H B) :
    Accessed r a (access a r).1 (access a r).2 := by
  rcases r with ⟨t, poisoned⟩
  cases poisoned with
  | true =>
      rw [access_of_poisoned rfl]
      exact .refused a rfl
  | false =>
      cases a with
      | find key handler =>
          cases hGet : t.get? key with
          | none => simpa [access, hGet] using .free hGet
          | some s => simpa [access, hGet] using .taken hGet
      | install key handler b old =>
          cases hGet : t.get? key with
          | none => simpa [access, hGet] using .added hGet
          | some s => simpa [access, hGet] using .replaced hGet
      | retract key old fault =>
          cases hGet : t.get? key with
          | none =>
              have hKept :
                  Accessed ⟨t, false⟩ (.retract key old fault)
                    (.done (.error fault)) ⟨t, false⟩ :=
                .kept (by simp [hGet])
              simpa [access, hGet] using hKept
          | some s =>
              by_cases hSame : s.handler = old
              · subst hSame
                simpa [access, hGet] using .retracted hGet
              · have hKept :
                    Accessed ⟨t, false⟩ (.retract key old fault)
                      (.done (.error fault)) ⟨t, false⟩ :=
                  .kept (by simpa [hGet] using hSame)
                simpa [access, hGet, hSame] using hKept
      | remove key =>
          cases hGet : t.get? key with
          | none => simpa [access, hGet] using .missing hGet
          | some s => simpa [access, hGet] using .removed hGet
      | drain => exact .drained

/-
  No access to a table makes or loses a binding, also when the
  lock on the table was left poisoned.
-/
theorem owned_accessed
    {a : Access H B}
    {c : Call H B}
    {r r' : Registry H B}
    (hAccessed : Accessed r a c r') :
    c.owned + r'.bindings = a.owned + r.bindings := by
  cases hAccessed with
  | refused a hPoisoned => rw [owned_refused]
  | free hFree => rfl
  | taken hTaken => rfl
  | @added key handler b old hFree =>
      rw [bindings_insert_of_none hFree]
      simp [owned, Access.owned]
  | @replaced key handler b old s hTaken =>
      have hInsert := bindings_insert_of_some hTaken ⟨handler, b⟩ false
      rw [owned_replaced, Multiset.singleton_add, hInsert]
      rfl
  | retracted hTaken =>
      have hErase := bindings_erase_of_some hTaken false
      simpa [owned, Access.owned, AfterUnbind.owned] using hErase
  | kept hOther => rfl
  | removed hTaken =>
      have hErase := bindings_erase_of_some hTaken false
      simpa [owned, Access.owned, AfterCancel.owned] using hErase
  | missing hFree => rfl
  | drained =>
      rw [owned_giveUp]
      simp [Access.owned, Registry.bindings, Table.empty, bindingsOf]

end Accesses

------------------------------------------------------------
-- Callbacks
------------------------------------------------------------

/- Cancelling a handler, well or not, moves no binding. -/
theorem owned_cancelled
    (handler : H)
    (next : AfterCancel H B)
    (outcome : Except String Unit) :
    (cancelled handler next outcome).owned = next.owned := by
  cases next with
  | bind key new =>
      rcases outcome with detail | ⟨⟩
      · rfl
      · rfl
  | unbindReplaced b => rfl
  | unbindRemoved b => rfl
  | unbindDrained b rest => rfl

/- What is left to give up after a binding was given up. -/
theorem owned_unbound
    (next : AfterUnbind H B)
    (outcome : Except Fault Unit) :
    (unbound next outcome).owned = next.owned := by
  cases next with
  | answer result => rfl
  | report cancelled =>
      rcases cancelled with fault | ⟨⟩
      · rfl
      · rfl
  | goOn rest => exact owned_giveUp rest

------------------------------------------------------------
-- Subscriptions that come and stay
------------------------------------------------------------

/- The subscription that a call is about to put in. -/
def unplaced? : Call H B → Option (Key × Subscription H B)
  | accessing (.install key handler b _) => some (key, ⟨handler, b⟩)
  | _ => none

/- What a call is about to put in, it owns. -/
theorem mem_owned_of_unplaced?
    {c : Call H B}
    {key : Key}
    {s : Subscription H B}
    (hUnplaced : c.unplaced? = some (key, s)) :
    s.binding ∈ c.owned := by
  unfold unplaced? at hUnplaced
  split at hUnplaced
  · cases hUnplaced
    exact Multiset.mem_singleton_self _
  · exact absurd hUnplaced nofun

/- A call that starts has nothing to put in. -/
theorem unplaced?_start
    (request : Request H) :
    (start request : Call H B).unplaced? = none := by
  cases hUnplaced : (start request : Call H B).unplaced? with
  | none => rfl
  | some entry =>
      have hMember := mem_owned_of_unplaced? hUnplaced
      rw [owned_start] at hMember
      exact absurd hMember (Multiset.notMem_zero _)

/- A call that gives subscriptions up has none to put in. -/
theorem unplaced?_giveUp
    (drained : List (Subscription H B)) :
    (giveUp drained).unplaced? = none := by
  cases drained with
  | nil => rfl
  | cons s rest => rfl

/- A call that has accessed the table has nothing left to put in. -/
theorem unplaced?_accessed
    [DecidableEq H]
    {a : Access H B}
    {c : Call H B}
    {r r' : Registry H B}
    (hAccessed : Accessed r a c r') :
    c.unplaced? = none := by
  cases hAccessed with
  | refused a hPoisoned =>
      cases a with
      | find key handler => rfl
      | install key handler b old => rfl
      | retract key old fault => rfl
      | remove key => rfl
      | drain => rfl
  | free hFree => rfl
  | taken hTaken => rfl
  | added hFree => rfl
  | replaced hTaken =>
      unfold replaced
      split
      · rfl
      · rfl
  | retracted hTaken => rfl
  | kept hOther => rfl
  | removed hTaken => rfl
  | missing hFree => rfl
  | drained => exact unplaced?_giveUp (r.table.entries.map (·.2))

/- Nor has one that goes on after a handler was cancelled. -/
theorem unplaced?_cancelled
    (handler : H)
    (next : AfterCancel H B)
    (outcome : Except String Unit) :
    (cancelled handler next outcome).unplaced? = none := by
  cases next with
  | bind key new =>
      rcases outcome with detail | ⟨⟩
      · rfl
      · rfl
  | unbindReplaced b => rfl
  | unbindRemoved b => rfl
  | unbindDrained b rest => rfl

/- Nor has one that goes on after a binding was given up. -/
theorem unplaced?_unbound
    (next : AfterUnbind H B)
    (outcome : Except Fault Unit) :
    (unbound next outcome).unplaced? = none := by
  cases next with
  | answer result => rfl
  | report cancelled =>
      rcases cancelled with fault | ⟨⟩
      · rfl
      · rfl
  | goOn rest => exact unplaced?_giveUp rest

/-
  After an access a key has no other subscription than before,
  but for the one that the access was to put in.
-/
theorem get?_accessed
    [DecidableEq H]
    {a : Access H B}
    {c : Call H B}
    {r r' : Registry H B}
    (hAccessed : Accessed r a c r')
    {key : Key}
    {s : Subscription H B}
    (hFound : r'.table.get? key = some s) :
    r.table.get? key = some s ∨
      (accessing a).unplaced? = some (key, s) := by
  have hInsert :
      ∀ {other : Key} {v : Subscription H B},
        (r.table.insert other v).get? key = some s →
        r.table.get? key = some s ∨ some (other, v) = some (key, s) := by
    intro other v hGet
    rw [Table.get?_insert] at hGet
    split at hGet
    · rename_i hKey
      right
      rw [hKey, Option.some.inj hGet]
    · exact Or.inl hGet
  have hErase :
      ∀ {other : Key},
        (r.table.erase other).get? key = some s →
        r.table.get? key = some s := by
    intro other hGet
    rw [Table.get?_erase] at hGet
    split at hGet
    · exact absurd hGet nofun
    · exact hGet
  cases hAccessed with
  | refused a hPoisoned => exact Or.inl hFound
  | free hFree => exact Or.inl hFound
  | taken hTaken => exact Or.inl hFound
  | added hFree => exact hInsert hFound
  | replaced hTaken => exact hInsert hFound
  | retracted hTaken => exact Or.inl (hErase hFound)
  | kept hOther => exact Or.inl hFound
  | removed hTaken => exact Or.inl (hErase hFound)
  | missing hFree => exact Or.inl hFound
  | drained => exact absurd hFound nofun

/- An access that is not refused puts in what it was to put in. -/
theorem get?_accessed_of_unplaced
    [DecidableEq H]
    {a : Access H B}
    {c : Call H B}
    {r r' : Registry H B}
    (hAccessed : Accessed r a c r')
    (hUsable : r.poisoned = false)
    {key : Key}
    {s : Subscription H B}
    (hUnplaced : (accessing a).unplaced? = some (key, s)) :
    r'.table.get? key = some s := by
  cases hAccessed with
  | refused a hPoisoned =>
      rw [hUsable] at hPoisoned
      exact absurd hPoisoned nofun
  | added hFree =>
      cases hUnplaced
      rw [Table.get?_insert, if_pos rfl]
  | replaced hTaken =>
      cases hUnplaced
      rw [Table.get?_insert, if_pos rfl]
  | free hFree => exact absurd hUnplaced nofun
  | taken hTaken => exact absurd hUnplaced nofun
  | retracted hTaken => exact absurd hUnplaced nofun
  | kept hOther => exact absurd hUnplaced nofun
  | removed hTaken => exact absurd hUnplaced nofun
  | missing hFree => exact absurd hUnplaced nofun
  | drained => exact absurd hUnplaced nofun

/- The lock on a table is left as it was. -/
theorem poisoned_accessed
    [DecidableEq H]
    {a : Access H B}
    {c : Call H B}
    {r r' : Registry H B}
    (hAccessed : Accessed r a c r')
    (hUsable : r.poisoned = false) :
    r'.poisoned = false := by
  cases hAccessed with
  | refused a hPoisoned => exact hUsable
  | free hFree => exact hUsable
  | taken hTaken => exact hUsable
  | kept hOther => exact hUsable
  | missing hFree => exact hUsable
  | added hFree => rfl
  | replaced hTaken => rfl
  | retracted hTaken => rfl
  | removed hTaken => rfl
  | drained => rfl

/- No access mends a lock that was left poisoned, or poisons it. -/
theorem poisoned_access
    [DecidableEq H]
    (a : Access H B)
    (r : Registry H B) :
    (access a r).2.poisoned = r.poisoned := by
  cases hPoisoned : r.poisoned with
  | true =>
      rw [access_of_poisoned hPoisoned]
      exact hPoisoned
  | false => exact poisoned_accessed (accessed a r) hPoisoned

------------------------------------------------------------
-- Calls that subscribe a handler
------------------------------------------------------------

/-
  A call is subscribing a handler.  It will not return without
  a fault unless the handler was put in, as the last argument
  says.
-/
def Subscribes
    (key : Key)
    (handler : H)
    (placed : Prop) : Call H B → Prop
  | accessing (.find k h) => k = key ∧ h = handler
  | accessing (.install k h _ _) => k = key ∧ h = handler
  | accessing (.retract _ _ _) => True
  | cancelling _ (.bind k h) => k = key ∧ h = handler
  | cancelling _ (.unbindReplaced _) => placed
  | binding k h _ => k = key ∧ h = handler
  | unbinding _ (.answer result) => result = .ok () → placed
  | done result => result = .ok () → placed
  | _ => False

section Subscribes

variable {key : Key}
variable {handler : H}
variable {placed : Prop}

/- A handler that was put in once was put in for good. -/
theorem Subscribes.mono
    {placed' : Prop}
    (hMono : placed → placed')
    {c : Call H B}
    (hSubscribes : c.Subscribes key handler placed) :
    c.Subscribes key handler placed' := by
  unfold Subscribes at hSubscribes ⊢
  split at hSubscribes
  · exact hSubscribes
  · exact hSubscribes
  · trivial
  · exact hSubscribes
  · exact hMono hSubscribes
  · exact hSubscribes
  · exact fun hOk => hMono (hSubscribes hOk)
  · exact fun hOk => hMono (hSubscribes hOk)
  · exact hSubscribes.elim

/- A call starts to subscribe a handler. -/
theorem subscribes_start
    (key : Key)
    (handler : H) :
    (start (.subscribe key handler) : Call H B).Subscribes
      key handler placed := by
  simp only [start, checked]
  split
  · exact nofun
  · exact ⟨rfl, rfl⟩

/- The call goes on after it has accessed the table. -/
theorem Subscribes.accessed
    [DecidableEq H]
    {a : Access H B}
    {c : Call H B}
    {r r' : Registry H B}
    (hAccessed : Accessed r a c r')
    (hSubscribes :
      (accessing a).Subscribes key handler placed) :
    c.Subscribes key handler
      (placed ∨
        ∃ b, (accessing a).unplaced? = some (key, ⟨handler, b⟩)) := by
  cases hAccessed with
  | refused a hPoisoned =>
      cases a with
      | find key handler => exact nofun
      | install key handler b old => exact nofun
      | retract key old fault => exact nofun
      | remove key => exact hSubscribes.elim
      | drain => exact hSubscribes.elim
  | free hFree => exact hSubscribes
  | taken hTaken => exact hSubscribes
  | @added key handler b old hFree =>
      rcases hSubscribes with ⟨rfl, rfl⟩
      exact fun _ => Or.inr ⟨b, rfl⟩
  | @replaced key handler b old s hTaken =>
      rcases hSubscribes with ⟨rfl, rfl⟩
      unfold replaced
      split
      · exact fun _ => Or.inr ⟨b, rfl⟩
      · exact Or.inr ⟨b, rfl⟩
  | retracted hTaken => exact nofun
  | kept hOther => exact nofun
  | removed hTaken => exact hSubscribes.elim
  | missing hFree => exact hSubscribes.elim
  | drained => exact hSubscribes.elim

/- The call goes on after a handler was cancelled. -/
theorem Subscribes.cancelled
    {h : H}
    {next : AfterCancel H B}
    (hSubscribes :
      (cancelling h next).Subscribes key handler placed)
    (outcome : Except String Unit) :
    (cancelled h next outcome).Subscribes key handler placed := by
  cases next with
  | bind k new =>
      rcases outcome with detail | ⟨⟩
      · exact nofun
      · exact hSubscribes
  | unbindReplaced b => exact fun _ => hSubscribes
  | unbindRemoved b => exact hSubscribes.elim
  | unbindDrained b rest => exact hSubscribes.elim

/- The call goes on after a binding was made. -/
theorem Subscribes.bound
    {k : Key}
    {h : H}
    {old : Option H}
    (hSubscribes :
      (binding k h old : Call H B).Subscribes key handler placed)
    (outcome : Except Fault B) :
    (bound k h old outcome).Subscribes key handler placed := by
  cases outcome with
  | ok b => exact hSubscribes
  | error fault =>
      cases old with
      | none => exact nofun
      | some h => exact trivial

/- The call goes on after a binding was given up. -/
theorem Subscribes.unbound
    {b : B}
    {next : AfterUnbind H B}
    (hSubscribes :
      (unbinding b next).Subscribes key handler placed)
    (outcome : Except Fault Unit) :
    (unbound next outcome).Subscribes key handler placed := by
  cases next with
  | answer result => exact hSubscribes
  | report cancelled => exact hSubscribes.elim
  | goOn rest => exact hSubscribes.elim

/-
  The call goes on.  The handler counts as put in as soon as
  the call accesses the table to put it in.
-/
theorem Subscribes.step
    {σ : Type}
    [DecidableEq H]
    (callbacks : Callbacks H B σ)
    (s : Scene H B σ)
    {c : Call H B}
    (hSubscribes : c.Subscribes key handler placed) :
    (c.step callbacks s).1.Subscribes key handler
      (placed ∨ ∃ b, c.unplaced? = some (key, ⟨handler, b⟩)) := by
  cases c with
  | accessing a =>
      exact Subscribes.accessed (Call.accessed a s.registry) hSubscribes
  | cancelling h next =>
      have hNext := hSubscribes.cancelled (callbacks.cancel h s).1
      exact hNext.mono Or.inl
  | binding k h old =>
      have hNext := hSubscribes.bound (callbacks.bind k h s).1
      exact hNext.mono Or.inl
  | unbinding b next =>
      have hNext := hSubscribes.unbound (callbacks.unbind b s).1
      exact hNext.mono Or.inl
  | done result => exact fun hOk => Or.inl (hSubscribes hOk)

end Subscribes

end Call

end Courier.Registration
