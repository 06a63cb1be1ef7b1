import Courier.Proofs.Registration.Stages
import Courier.Proofs.Transport.Calls
import Courier.Proofs.Transport.Queue

/-
  This file says what one step of a call does to a client, and
  to a broker in memory.  A step leaves subscriptions and
  queues alone, or accesses the table, or makes the queue of a
  new subscription, or detaches a queue.

  Key definitions include:
    * `Client.Call.inner?`
    * `Client.Call.owned`, `Client.Call.unplaced?`
    * `Client.Call.Subscribes`
    * `Client.Call.Stepped`, `Client.Call.Advance`

  Main statements:
    * `Client.Call.stepped_of_step`
    * `Client.Call.advance_of_step`
    * `Client.Call.Subscribes.step`
-/

namespace Courier

open Registration

namespace Client.Call

variable {H ω : Type}

------------------------------------------------------------
-- Stages
------------------------------------------------------------

/- The call on the registry that a call of a client makes. -/
def inner?
    {B : Type} : Client.Call H B → Option (Registration.Call H B)
  | changing c => some c
  | clearing c => some c
  | _ => none

/- The bindings that a call is about to install or to give up. -/
def owned
    {B : Type}
    (call : Client.Call H B) : Multiset B :=
  (call.inner?.map Registration.Call.owned).getD 0

/- The subscription that a call is about to put in. -/
def unplaced?
    {B : Type}
    (call : Client.Call H B) : Option (Key × Subscription H B) :=
  call.inner?.bind Registration.Call.unplaced?

/- What a call owns is what its call on the registry owns. -/
theorem owned_eq
    {B : Type}
    {call : Client.Call H B}
    {c : Registration.Call H B}
    (hInner : call.inner? = some c) :
    call.owned = c.owned := by
  simp [owned, hInner]

theorem unplaced?_eq
    {B : Type}
    {call : Client.Call H B}
    {c : Registration.Call H B}
    (hInner : call.inner? = some c) :
    call.unplaced? = c.unplaced? := by
  simp [unplaced?, hInner]

/- What a call is about to put in, it owns. -/
theorem mem_owned_of_unplaced?
    {call : Client.Call H Nat}
    {key : Key}
    {v : Subscription H Nat}
    (hUnplaced : call.unplaced? = some (key, v)) :
    v.binding ∈ call.owned := by
  rcases Option.bind_eq_some_iff.mp hUnplaced with
    ⟨inner, hInner, hInnerUnplaced⟩
  rw [owned_eq hInner]
  exact Registration.Call.mem_owned_of_unplaced? hInnerUnplaced

/- A call that owns nothing has nothing to put in. -/
theorem unplaced?_eq_none_of_owned
    {call : Client.Call H Nat}
    (hNothing : call.owned = 0) :
    call.unplaced? = none := by
  cases hUnplaced : call.unplaced? with
  | none => rfl
  | some entry =>
      have hMember := mem_owned_of_unplaced? hUnplaced
      rw [hNothing] at hMember
      exact absurd hMember (Multiset.notMem_zero _)

/- A call that was just made owns nothing. -/
theorem owned_asking
    {B : Type}
    (request : Request H) :
    (asking request : Client.Call H B).owned = 0 := by
  cases request with
  | subscribe key handler => rfl
  | unsubscribe key => rfl
  | clear => rfl

/-
  A call is subscribing a handler.  It will not return without
  a fault unless the handler was put in.
-/
def Subscribes
    {B : Type}
    (key : Key)
    (handler : H)
    (placed : Prop) : Client.Call H B → Prop
  | entering request => request = .subscribe key handler
  | changing c => c.Subscribes key handler placed
  | done result => result = .ok () → placed
  | _ => False

/- A handler that was put in once was put in for good. -/
theorem Subscribes.mono
    {B : Type}
    {key : Key}
    {handler : H}
    {placed placed' : Prop}
    (hMono : placed → placed')
    {call : Client.Call H B}
    (hSubscribes : call.Subscribes key handler placed) :
    call.Subscribes key handler placed' := by
  cases call with
  | entering request => exact hSubscribes
  | changing c => exact Registration.Call.Subscribes.mono hMono hSubscribes
  | closing => exact hSubscribes.elim
  | clearing c => exact hSubscribes.elim
  | disconnecting => exact hSubscribes.elim
  | done result => exact fun hOk => hMono (hSubscribes hOk)

------------------------------------------------------------
-- Steps on any transport
------------------------------------------------------------

section Stepped

variable [DecidableEq H]
variable {B τ : Type}

/- All that a step of a call can do to a client. -/
inductive Stepped
    (t : Transport H B τ)
    (handlers : Handlers H ω)
    (call : Client.Call H B)
    (c : Client H B τ ω) :
    Client.Call H B → Client H B τ ω → Prop where
  /- The call on the registry takes a step. -/
  | within
      {call' : Client.Call H B}
      {inner : Registration.Call H B}
      (hInner : call.inner? = some inner)
      (hInner' :
        call'.inner? = some (inner.step (callbacks t handlers) c).1) :
      Stepped t handlers call c call'
        (inner.step (callbacks t handlers) c).2
  /- No more changes than the mark of being closed. -/
  | marked
      {call' : Client.Call H B}
      (closed : Bool)
      (hBefore : call.owned = 0)
      (hAfter : call'.owned = 0) :
      Stepped t handlers call c call'
        { c with state := { c.state with closed := closed } }
  | disconnected
      {call' : Client.Call H B}
      (hBefore : call.owned = 0)
      (hAfter : call'.owned = 0) :
      Stepped t handlers call c call'
        (c.withTransport (t.disconnect c.state.transport).2)

/- What a step of a call does. -/
theorem stepped_of_step
    {t : Transport H B τ}
    {handlers : Handlers H ω}
    {call call' : Client.Call H B}
    {c c' : Client H B τ ω}
    (hStep : call.step t handlers c = (call', c')) :
    Stepped t handlers call c call' c' := by
  cases call with
  | entering request =>
      simp only [Client.Call.step] at hStep
      split at hStep
      · cases hStep
        exact .marked _ rfl rfl
      · cases hStep
        exact .marked _ rfl (Registration.Call.owned_start request)
  | changing inner =>
      by_cases hDone : ∃ result, inner = .done result
      · rcases hDone with ⟨result, rfl⟩
        cases hStep
        exact .marked _ rfl rfl
      · rw [step_within (Or.inl rfl) _ _ _ (not_exists.mp hDone)] at hStep
        rcases proceed_cases t handlers changing inner c with
          ⟨-, hProceeds⟩ | ⟨key, handler, old, rfl, -, hBreaks⟩
        · cases hProceeds.symm.trans hStep
          exact .within rfl rfl
        · cases hBreaks.symm.trans hStep
          exact .marked _ rfl rfl
  | closing =>
      simp only [Client.Call.step] at hStep
      split at hStep
      · cases hStep
        exact .marked _ rfl rfl
      · cases hStep
        exact .marked _ rfl rfl
  | clearing inner =>
      by_cases hDone : ∃ result, inner = .done result
      · rcases hDone with ⟨fault | ⟨⟩, rfl⟩
        · cases hStep
          exact .marked _ rfl rfl
        · cases hStep
          exact .marked _ rfl rfl
      · rw [step_within (Or.inr rfl) _ _ _ (not_exists.mp hDone)] at hStep
        rcases proceed_cases t handlers clearing inner c with
          ⟨-, hProceeds⟩ | ⟨key, handler, old, rfl, -, hBreaks⟩
        · cases hProceeds.symm.trans hStep
          exact .within rfl rfl
        · cases hBreaks.symm.trans hStep
          exact .marked _ rfl rfl
  | disconnecting =>
      cases hStep
      exact .disconnected rfl rfl
  | done result =>
      cases hStep
      exact .marked _ rfl rfl

end Stepped

------------------------------------------------------------
-- Steps on a broker in memory
------------------------------------------------------------

variable [DecidableEq H]

/- All that a step of a call can do to a broker in memory. -/
inductive Advance
    (call : Client.Call H Nat)
    (c : LocalClient H (Watch H ω)) :
    Client.Call H Nat → LocalClient H (Watch H ω) → Prop where
  /- Subscriptions and queues stay as they are. -/
  | quiet
      {call' : Client.Call H Nat}
      {c' : LocalClient H (Watch H ω)}
      (hOwned : call'.owned = call.owned)
      (hBefore : call.unplaced? = none)
      (hAfter : call'.unplaced? = none)
      (hRegistry : c'.registry = c.registry)
      (hTransport : c'.state.transport = c.state.transport)
      (hRoot : c'.state.root = c.state.root)
      (hSeen : c'.state.world.seen = c.state.world.seen) :
      Advance call c call' c'
  /- The table is accessed. -/
  | access
      {call' : Client.Call H Nat}
      {a : Access H Nat}
      {inner : Registration.Call H Nat}
      {r : Registry H Nat}
      (hInner : call.inner? = some (.accessing a))
      (hInner' : call'.inner? = some inner)
      (hAccessed : Accessed c.registry a inner r) :
      Advance call c call' { c with registry := r }
  /- The queue of a new subscription is made. -/
  | bind
      {call' : Client.Call H Nat}
      {key : Key}
      {handler : H}
      {old : Option H}
      (hInner : call.inner? = some (.binding key handler old))
      (hInner' :
        call'.inner? =
          some (.accessing
            (.install key handler
              c.state.transport.queues.length old))) :
      Advance call c call'
        (c.withTransport (c.state.transport.extend handler))
  /- A queue is detached. -/
  | unbind
      {call' : Client.Call H Nat}
      {n : Nat}
      {next : AfterUnbind H Nat}
      (hInner : call.inner? = some (.unbinding n next))
      (hInner' : call'.inner? = some (.unbound next (.ok ()))) :
      Advance call c call'
        (c.withTransport (LocalBroker.unbind n c.state.transport).2)

/- What a step of a call on the registry does within a call. -/
theorem advance_of_inner
    (handlers : Handlers H ω)
    {call call' : Client.Call H Nat}
    {inner : Registration.Call H Nat}
    {c : LocalClient H (Watch H ω)}
    (hInner : call.inner? = some inner)
    (hInner' :
      call'.inner? =
        some (inner.step
          (callbacks LocalBroker.transport handlers.watched) c).1) :
    Advance call c call'
      (inner.step
        (callbacks LocalBroker.transport handlers.watched) c).2 := by
  cases inner with
  | accessing a =>
      exact .access hInner hInner' (Registration.Call.accessed a c.registry)
  | cancelling handler next =>
      refine .quiet ?_ ?_ ?_ rfl rfl rfl rfl
      · rw [owned_eq hInner, owned_eq hInner']
        exact Registration.Call.owned_cancelled handler next _
      · rw [unplaced?_eq hInner]
        rfl
      · rw [unplaced?_eq hInner']
        exact Registration.Call.unplaced?_cancelled handler next _
  | binding key handler old =>
      cases hRefusal : c.state.transport.refusal with
      | none =>
          simp only [Registration.Call.step, callbacks,
            LocalBroker.transport, LocalBroker.bind_started hRefusal]
            at hInner' ⊢
          exact .bind hInner hInner'
      | some detail =>
          simp only [Registration.Call.step, callbacks,
            LocalBroker.transport, LocalBroker.bind_refused hRefusal]
            at hInner' ⊢
          refine .quiet ?_ ?_ ?_ rfl rfl rfl rfl
          · rw [owned_eq hInner, owned_eq hInner']
            cases old with
            | none => rfl
            | some h => rfl
          · rw [unplaced?_eq hInner]
            rfl
          · rw [unplaced?_eq hInner']
            cases old with
            | none => rfl
            | some h => rfl
  | unbinding n next => exact .unbind hInner hInner'
  | done result =>
      refine .quiet ?_ ?_ ?_ rfl rfl rfl rfl
      · rw [owned_eq hInner, owned_eq hInner']
        rfl
      · rw [unplaced?_eq hInner]
        rfl
      · rw [unplaced?_eq hInner']
        rfl

/- A step that changes no more than the mark of being closed. -/
theorem advance_of_mark
    {call call' : Client.Call H Nat}
    (c : LocalClient H (Watch H ω))
    (closed : Bool)
    (hBefore : call.owned = 0)
    (hAfter : call'.owned = 0) :
    Advance call c call'
      { c with state := { c.state with closed := closed } } :=
  .quiet (hAfter.trans hBefore.symm)
    (unplaced?_eq_none_of_owned hBefore)
    (unplaced?_eq_none_of_owned hAfter) rfl rfl rfl rfl

/- What a step of a call does. -/
theorem advance_of_step
    (handlers : Handlers H ω)
    {call call' : Client.Call H Nat}
    {c c' : LocalClient H (Watch H ω)}
    (hStep :
      call.step LocalBroker.transport handlers.watched c = (call', c')) :
    Advance call c call' c' := by
  cases stepped_of_step hStep with
  | within hInner hInner' =>
      exact advance_of_inner handlers hInner hInner'
  | marked closed hBefore hAfter =>
      exact advance_of_mark c closed hBefore hAfter
  | disconnected hBefore hAfter =>
      exact advance_of_mark c c.state.closed hBefore hAfter

------------------------------------------------------------
-- What a step comes to
------------------------------------------------------------

section Advance

variable {call call' : Client.Call H Nat}
variable {c c' : LocalClient H (Watch H ω)}

/-
  After a step a key has no other subscription than before, but
  for the one that the call was to put in.
-/
theorem Advance.get?_cases
    (hAdvance : Advance call c call' c')
    {key : Key}
    {v : Subscription H Nat}
    (hFound : c'.registry.table.get? key = some v) :
    c.registry.table.get? key = some v ∨
      call.unplaced? = some (key, v) := by
  cases hAdvance with
  | quiet hOwned hBefore hAfter hRegistry hTransport hRoot hSeen =>
      rw [hRegistry] at hFound
      exact Or.inl hFound
  | access hInner hInner' hAccessed =>
      rw [unplaced?_eq hInner]
      exact Registration.Call.get?_accessed hAccessed hFound
  | bind hInner hInner' => exact Or.inl hFound
  | unbind hInner hInner' => exact Or.inl hFound

/- What a call was to put in is there after its step. -/
theorem Advance.get?_of_unplaced
    (hAdvance : Advance call c call' c')
    (hUsable : c.registry.poisoned = false)
    {key : Key}
    {v : Subscription H Nat}
    (hUnplaced : call.unplaced? = some (key, v)) :
    c'.registry.table.get? key = some v := by
  cases hAdvance with
  | quiet hOwned hBefore hAfter hRegistry hTransport hRoot hSeen =>
      rw [hBefore] at hUnplaced
      exact absurd hUnplaced nofun
  | access hInner hInner' hAccessed =>
      rw [unplaced?_eq hInner] at hUnplaced
      exact Registration.Call.get?_accessed_of_unplaced hAccessed hUsable
        hUnplaced
  | bind hInner hInner' =>
      rw [unplaced?_eq hInner] at hUnplaced
      exact absurd hUnplaced nofun
  | unbind hInner hInner' =>
      rw [unplaced?_eq hInner] at hUnplaced
      exact absurd hUnplaced nofun

/- A call is about to put in no more than the queue it just made. -/
theorem Advance.unplaced?_after
    (hAdvance : Advance call c call' c')
    {key : Key}
    {v : Subscription H Nat}
    (hUnplaced : call'.unplaced? = some (key, v)) :
    v.binding = c.state.transport.queues.length ∧
      ∃ q,
        c'.state.transport.queues[v.binding]? = some q ∧
        q.handler = v.handler := by
  cases hAdvance with
  | quiet hOwned hBefore hAfter hRegistry hTransport hRoot hSeen =>
      rw [hAfter] at hUnplaced
      exact absurd hUnplaced nofun
  | access hInner hInner' hAccessed =>
      rw [unplaced?_eq hInner',
        Registration.Call.unplaced?_accessed hAccessed] at hUnplaced
      exact absurd hUnplaced nofun
  | bind hInner hInner' =>
      rw [unplaced?_eq hInner'] at hUnplaced
      cases hUnplaced
      exact ⟨rfl, _, List.getElem?_concat_length, rfl⟩
  | unbind hInner hInner' =>
      rw [unplaced?_eq hInner',
        Registration.Call.unplaced?_unbound] at hUnplaced
      exact absurd hUnplaced nofun

/- No step gives a queue another handler. -/
theorem Advance.keeps_handlers
    (hAdvance : Advance call c call' c') :
    LocalBroker.Keeps (·.handler)
      c.state.transport.queues c'.state.transport.queues := by
  cases hAdvance with
  | quiet hOwned hBefore hAfter hRegistry hTransport hRoot hSeen =>
      rw [hTransport]
      exact LocalBroker.keeps_refl _ _
  | access hInner hInner' hAccessed => exact LocalBroker.keeps_refl _ _
  | bind hInner hInner' => exact LocalBroker.keeps_append _ _ _
  | unbind hInner hInner' =>
      exact LocalBroker.keeps_modify _ _ fun _ => rfl

/- A step leaves the lock, the root and what handlers saw alone. -/
theorem Advance.usable
    (hAdvance : Advance call c call' c')
    (hUsable : c.registry.poisoned = false) :
    c'.registry.poisoned = false := by
  cases hAdvance with
  | quiet hOwned hBefore hAfter hRegistry hTransport hRoot hSeen =>
      rw [hRegistry]
      exact hUsable
  | access hInner hInner' hAccessed =>
      exact Registration.Call.poisoned_accessed hAccessed hUsable
  | bind hInner hInner' => exact hUsable
  | unbind hInner hInner' => exact hUsable

theorem Advance.root_eq
    (hAdvance : Advance call c call' c') :
    c'.state.root = c.state.root := by
  cases hAdvance with
  | quiet hOwned hBefore hAfter hRegistry hTransport hRoot hSeen =>
      exact hRoot
  | access hInner hInner' hAccessed => rfl
  | bind hInner hInner' => rfl
  | unbind hInner hInner' => rfl

theorem Advance.seen_eq
    (hAdvance : Advance call c call' c') :
    c'.state.world.seen = c.state.world.seen := by
  cases hAdvance with
  | quiet hOwned hBefore hAfter hRegistry hTransport hRoot hSeen =>
      exact hSeen
  | access hInner hInner' hAccessed => rfl
  | bind hInner hInner' => rfl
  | unbind hInner hInner' => rfl

end Advance

/- A call that subscribes a handler goes on. -/
theorem Subscribes.step
    (handlers : Handlers H ω)
    {key : Key}
    {handler : H}
    {placed : Prop}
    {call call' : Client.Call H Nat}
    {c c' : LocalClient H (Watch H ω)}
    (hStep :
      call.step LocalBroker.transport handlers.watched c = (call', c'))
    (hSubscribes : call.Subscribes key handler placed) :
    call'.Subscribes key handler
      (placed ∨ ∃ n, call.unplaced? = some (key, ⟨handler, n⟩)) := by
  cases call with
  | entering request =>
      cases hSubscribes
      simp only [Client.Call.step] at hStep
      split at hStep
      · cases hStep
        intro hOk
        cases hOk
      · cases hStep
        exact Registration.Call.subscribes_start key handler
  | changing inner =>
      by_cases hDone : ∃ result, inner = .done result
      · rcases hDone with ⟨result, rfl⟩
        cases hStep
        exact fun hOk => Or.inl (hSubscribes hOk)
      · rw [step_within (Or.inl rfl) _ _ _ (not_exists.mp hDone)] at hStep
        rcases proceed_cases LocalBroker.transport handlers.watched
            changing inner c with
          ⟨-, hProceeds⟩ | ⟨_, _, _, -, -, hBreaks⟩
        · cases hProceeds.symm.trans hStep
          exact Registration.Call.Subscribes.step _ c hSubscribes
        · cases hBreaks.symm.trans hStep
          intro hOk
          cases hOk
  | closing => exact hSubscribes.elim
  | clearing inner => exact hSubscribes.elim
  | disconnecting => exact hSubscribes.elim
  | done result =>
      cases hStep
      exact fun hOk => Or.inl (hSubscribes hOk)

end Client.Call

end Courier
