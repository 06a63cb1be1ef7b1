import Courier.Proofs.Registration.Refinement
import Courier.Transport.Client

/-
  This file says what calls on a client come to that are made
  one after the other, whatever the transport below.

  A call takes its steps while no other call takes any, so
  what it found in the table is still there when it comes back
  to it.  Each outcome of the callbacks on the way leads to one
  end, which is stated in one equation.

  Key definitions include:
    * `Client.Call.Ends`
    * `Client.install`, `Client.uninstall`, `Client.giveUp`

  Main statements:
    * `Client.subscribe_free`, `Client.subscribe_replaced`,
      `Client.subscribe_uncancelled`, `Client.subscribe_unbound`
    * `Client.subscribe_panicked_free`,
      `Client.subscribe_panicked_taken`
    * `Client.unsubscribe_free`, `Client.unsubscribe_taken`
    * `Client.close_open`
-/

namespace Courier.Client

open Registration

variable {H B τ ω : Type}

------------------------------------------------------------
-- Changes of the table
------------------------------------------------------------

/- Put a subscription into the table of a client. -/
def install
    (c : Client H B τ ω)
    (key : Key)
    (s : Subscription H B) : Client H B τ ω :=
  { c with
    registry := { c.registry with table := c.registry.table.insert key s } }

/- Take the subscription of a key out of the table of a client. -/
def uninstall
    (c : Client H B τ ω)
    (key : Key) : Client H B τ ω :=
  { c with
    registry := { c.registry with table := c.registry.table.erase key } }

/- Cancel some handlers and give their bindings up, however that ends. -/
def giveUp
    (t : Transport H B τ)
    (handlers : Handlers H ω)
    (given : List (Subscription H B))
    (c : Client H B τ ω) : Client H B τ ω :=
  given.foldl
    (fun c s =>
      (c.withWorld (handlers.cancel s.handler c.state.world).2).withTransport
        (t.unbind s.binding c.state.transport).2)
    c

------------------------------------------------------------
-- Calls that end
------------------------------------------------------------

variable [DecidableEq H]
variable {t : Transport H B τ}
variable {handlers : Handlers H ω}

namespace Call

/-
  A call goes on with its call on the registry, be it to
  change a subscription or to give all of them up.
-/
theorem step_within
    {within : Registration.Call H B → Call H B}
    (hWithin : within = changing ∨ within = clearing)
    (t : Transport H B τ)
    (handlers : Handlers H ω)
    (c : Client H B τ ω)
    {inner : Registration.Call H B}
    (hGoing : ∀ result, ¬ inner = .done result) :
    (within inner).step t handlers c =
      proceed t handlers within inner c := by
  rcases hWithin with rfl | rfl
  · cases inner with
    | done result => exact absurd rfl (hGoing result)
    | accessing a => rfl
    | cancelling handler next => rfl
    | binding key handler old => rfl
    | unbinding n next => rfl
  · cases inner with
    | done result => exact absurd rfl (hGoing result)
    | accessing a => rfl
    | cancelling handler next => rfl
    | binding key handler old => rfl
    | unbinding n next => rfl

/- The call on the registry takes a step, or the call breaks off. -/
theorem proceed_cases
    (t : Transport H B τ)
    (handlers : Handlers H ω)
    (within : Registration.Call H B → Call H B)
    (inner : Registration.Call H B)
    (c : Client H B τ ω) :
    (panics t inner = false ∧
      proceed t handlers within inner c =
        (within (inner.step (callbacks t handlers) c).1,
          (inner.step (callbacks t handlers) c).2)) ∨
    ∃ key handler old,
      inner = .binding key handler old ∧
      t.panics key = true ∧
      proceed t handlers within inner c = (done (.error .panicked), c) := by
  cases hPanics : panics t inner with
  | false =>
      left
      simp [proceed, hPanics]
  | true =>
      right
      cases inner with
      | binding key handler old =>
          refine ⟨key, handler, old, rfl, hPanics, ?_⟩
          simp [proceed, hPanics]
      | accessing a => cases hPanics
      | cancelling handler next => cases hPanics
      | unbinding n next => cases hPanics
      | done result => cases hPanics

/- A handler is cancelled, or fails to be. -/
theorem step_cancelled
    {handler : H}
    {next : AfterCancel H B}
    {c : Client H B τ ω}
    {outcome : Except String Unit}
    {world : ω}
    (hCancel : handlers.cancel handler c.state.world = (outcome, world)) :
    (changing (.cancelling handler next)).step t handlers c =
      (changing (Registration.Call.cancelled handler next outcome),
        c.withWorld world) := by
  simp [step, proceed, panics, Registration.Call.step, callbacks, hCancel]

/- A binding is made, or fails to be. -/
theorem step_bound
    {key : Key}
    {handler : H}
    {old : Option H}
    {c : Client H B τ ω}
    {outcome : Except Fault B}
    {transport : τ}
    (hCalm : t.panics key = false)
    (hBind : t.bind key handler c.state.transport = (outcome, transport)) :
    (changing (.binding key handler old)).step t handlers c =
      (changing (Registration.Call.bound key handler old outcome),
        c.withTransport transport) := by
  simp [step, proceed, panics, Registration.Call.step, callbacks, hCalm,
    hBind]

/- The transport panics, and the call breaks off. -/
theorem step_panicked
    {key : Key}
    {handler : H}
    {old : Option H}
    {c : Client H B τ ω}
    (hPanics : t.panics key = true) :
    (changing (.binding key handler old)).step t handlers c =
      (done (.error .panicked), c) := by
  simp [step, proceed, panics, hPanics]

/- A call has returned after a number of steps. -/
def Ends
    (t : Transport H B τ)
    (handlers : Handlers H ω)
    (n : Nat)
    (call : Call H B)
    (c : Client H B τ ω)
    (result : Except Fault Unit)
    (c' : Client H B τ ω) : Prop :=
  steps t handlers n call c = (done result, c')

/- A call that has returned stays as it is. -/
theorem ends_done
    (t : Transport H B τ)
    (handlers : Handlers H ω)
    (n : Nat)
    (result : Except Fault Unit)
    (c : Client H B τ ω) :
    Ends t handlers n (done result) c result c := by
  induction n with
  | zero => rfl
  | succ n ih => exact ih

/- One more step in front. -/
theorem Ends.after
    {n : Nat}
    {call call' : Call H B}
    {c c' last : Client H B τ ω}
    {result : Except Fault Unit}
    (hStep : call.step t handlers c = (call', c'))
    (hEnds : Ends t handlers n call' c' result last) :
    Ends t handlers (n + 1) call c result last := by
  unfold Ends
  simp only [steps, hStep]
  exact hEnds

/- More steps change nothing once a call has returned. -/
theorem Ends.more
    {m n : Nat}
    {call : Call H B}
    {c last : Client H B τ ω}
    {result : Except Fault Unit}
    (hEnds : Ends t handlers m call c result last)
    (hMore : m ≤ n) :
    Ends t handlers n call c result last := by
  induction m generalizing n call c with
  | zero =>
      have hDone : (call, c) = (done result, last) := hEnds
      cases hDone
      exact ends_done t handlers n result last
  | succ m ih =>
      rcases Nat.exists_eq_add_of_le' hMore with ⟨k, rfl⟩
      have hRest :
          Ends t handlers m
            (call.step t handlers c).1
            (call.step t handlers c).2 result last := hEnds
      exact Ends.after (n := k + m) rfl (ih hRest (Nat.le_add_left m k))

/- A call that ends in time is run to its end. -/
theorem Ends.run
    {n : Nat}
    {call : Call H B}
    {c last : Client H B τ ω}
    {result : Except Fault Unit}
    (hEnds : Ends t handlers n call c result last)
    (hTime : n ≤ mostSteps c.registry.table.size) :
    Call.run t handlers call c = (result, last) := by
  have hMost := hEnds.more hTime
  unfold Ends at hMost
  simp only [Call.run, hMost, Call.result]

end Call

------------------------------------------------------------
-- Subscribing
------------------------------------------------------------

section Subscribe

variable {key : Key}
variable {handler : H}
variable {c : Client H B τ ω}

/- A call on an open client that ends in time. -/
theorem run_entering
    {n : Nat}
    {request : Request H}
    {last : Client H B τ ω}
    {result : Except Fault Unit}
    (hOpen : c.state.closed = false)
    (hEnds :
      Call.Ends t handlers n (.changing (.start request)) c result last)
    (hFew : n ≤ 6) :
    Call.run t handlers (.entering request) c = (result, last) := by
  have hEnter :
      (Call.entering request).step t handlers c =
        (.changing (.start request), c) := by
    simp [Call.step, hOpen]
  apply (Call.Ends.after hEnter hEnds).run
  unfold Call.mostSteps Registration.Call.mostSteps
  omega

/- A client that is closed changes no subscription. -/
theorem run_entering_closed
    (request : Request H)
    (hClosed : c.state.closed = true) :
    Call.run t handlers (.entering request) c = (.error .closed, c) := by
  have hEnter :
      (Call.entering request).step t handlers c =
        (.done (.error .closed), c) := by
    simp [Call.step, hClosed]
  apply (Call.Ends.after hEnter (Call.ends_done t handlers 0 _ c)).run
  unfold Call.mostSteps
  omega

/- A closed client subscribes nobody. -/
theorem subscribe_closed
    (hClosed : c.state.closed = true) :
    subscribe t handlers key handler c = (.error .closed, c) :=
  run_entering_closed _ hClosed

/- A key that cannot be used is refused. -/
theorem subscribe_refused
    {fault : Fault}
    (hOpen : c.state.closed = false)
    (hCheck : key.check = .error fault) :
    subscribe t handlers key handler c = (.error fault, c) := by
  apply run_entering (n := 1) hOpen ?_ (by omega)
  simp [Call.Ends, Call.steps, Call.step,
    Registration.Call.start, Registration.Call.checked, hCheck]

variable (hOpen : c.state.closed = false)
variable (hUsable : c.registry.poisoned = false)
variable (hCheck : key.check = .ok ())

include hOpen hUsable hCheck

/- A key without a subscription is bound at once. -/
theorem run_binding_free
    {n : Nat}
    {last : Client H B τ ω}
    {result : Except Fault Unit}
    (hFree : c.registry.table.get? key = none)
    (hEnds :
      Call.Ends t handlers n (.changing (.binding key handler none)) c
        result last)
    (hFew : n ≤ 4) :
    subscribe t handlers key handler c = (result, last) := by
  have hFind :
      (Call.changing (.start (.subscribe key handler))).step t handlers c =
        (.changing (.binding key handler none), c) := by
    simp [Call.step, Call.proceed, Call.panics, Registration.Call.step,
      Registration.Call.start, Registration.Call.checked,
      Registration.Call.access, hCheck, hUsable, hFree]
  exact run_entering hOpen (Call.Ends.after hFind hEnds) (by omega)

/- A key without a subscription is given one, if it can be bound. -/
theorem subscribe_free
    {b : B}
    {transport : τ}
    (hFree : c.registry.table.get? key = none)
    (hCalm : t.panics key = false)
    (hBind : t.bind key handler c.state.transport = (.ok b, transport)) :
    subscribe t handlers key handler c =
      (.ok (), (c.withTransport transport).install key ⟨handler, b⟩) := by
  apply run_binding_free (n := 3) hOpen hUsable hCheck hFree ?_ (by omega)
  apply Call.Ends.after (Call.step_bound hCalm hBind)
  simp [Call.Ends, Call.steps, Call.step, Call.proceed, Call.panics,
    Registration.Call.step, Registration.Call.access,
    Registration.Call.bound, withTransport, install, hUsable, hFree]

/- A key without a subscription is left so, if it cannot be bound. -/
theorem subscribe_unbound
    {fault : Fault}
    {transport : τ}
    (hFree : c.registry.table.get? key = none)
    (hCalm : t.panics key = false)
    (hBind : t.bind key handler c.state.transport = (.error fault, transport)) :
    subscribe t handlers key handler c =
      (.error fault, c.withTransport transport) := by
  apply run_binding_free (n := 2) hOpen hUsable hCheck hFree ?_ (by omega)
  exact Call.Ends.after (Call.step_bound hCalm hBind) rfl

/- A key without a subscription is left so by a panic. -/
theorem subscribe_panicked_free
    (hFree : c.registry.table.get? key = none)
    (hPanics : t.panics key = true) :
    subscribe t handlers key handler c = (.error .panicked, c) := by
  apply run_binding_free (n := 1) hOpen hUsable hCheck hFree ?_ (by omega)
  exact Call.Ends.after (Call.step_panicked hPanics) rfl

variable {old : Subscription H B}
variable {world : ω}
variable (hTaken : c.registry.table.get? key = some old)

include hTaken

/- A key with a subscription is bound once its handler is cancelled. -/
theorem run_cancelling
    {n : Nat}
    {last : Client H B τ ω}
    {result : Except Fault Unit}
    {outcome : Except String Unit}
    (hCancel :
      handlers.cancel old.handler c.state.world = (outcome, world))
    (hEnds :
      Call.Ends t handlers n
        (.changing
          (Registration.Call.cancelled old.handler (.bind key handler)
            outcome))
        (c.withWorld world) result last)
    (hFew : n ≤ 4) :
    subscribe t handlers key handler c = (result, last) := by
  have hFind :
      (Call.changing (.start (.subscribe key handler))).step t handlers c =
        (.changing (.cancelling old.handler (.bind key handler)), c) := by
    simp [Call.step, Call.proceed, Call.panics, Registration.Call.step,
      Registration.Call.start, Registration.Call.checked,
      Registration.Call.access, hCheck, hUsable, hTaken]
  exact
    run_entering hOpen
      (Call.Ends.after hFind
        (Call.Ends.after (Call.step_cancelled hCancel) hEnds)) (by omega)

/- A subscription stays whose handler fails to be cancelled. -/
theorem subscribe_uncancelled
    {detail : String}
    (hCancel :
      handlers.cancel old.handler c.state.world = (.error detail, world)) :
    subscribe t handlers key handler c =
      (.error (.handlerCancel detail), c.withWorld world) :=
  run_cancelling (n := 1) hOpen hUsable hCheck hTaken hCancel rfl (by omega)

variable (hCancel :
  handlers.cancel old.handler c.state.world = (.ok (), world))

include hCancel

/- A subscription gives way to a new one, if that can be bound. -/
theorem subscribe_replaced
    {b : B}
    {transport : τ}
    (hCalm : t.panics key = false)
    (hBind : t.bind key handler c.state.transport = (.ok b, transport)) :
    subscribe t handlers key handler c =
      (.ok (),
        ((c.withWorld world).withTransport
          (t.unbind old.binding transport).2).install key ⟨handler, b⟩) := by
  apply run_cancelling (n := 4) hOpen hUsable hCheck hTaken hCancel ?_
    (by omega)
  have hBound :
      (Call.changing (.binding key handler (some old.handler))).step t
          handlers (c.withWorld world) =
        (.changing
          (Registration.Call.bound key handler (some old.handler) (.ok b)),
          (c.withWorld world).withTransport transport) :=
    Call.step_bound hCalm hBind
  apply Call.Ends.after hBound
  simp [Call.Ends, Call.steps, Call.step, Call.proceed, Call.panics,
    Registration.Call.step, Registration.Call.access,
    Registration.Call.bound, Registration.Call.replaced,
    Registration.Call.unbound, callbacks, withWorld, withTransport,
    install, hUsable, hTaken]

/- A subscription is gone if the new one cannot be bound. -/
theorem subscribe_lost
    {fault : Fault}
    {transport : τ}
    (hCalm : t.panics key = false)
    (hBind : t.bind key handler c.state.transport = (.error fault, transport)) :
    subscribe t handlers key handler c =
      (.error fault,
        ((c.withWorld world).withTransport
          (t.unbind old.binding transport).2).uninstall key) := by
  apply run_cancelling (n := 4) hOpen hUsable hCheck hTaken hCancel ?_
    (by omega)
  have hBound :
      (Call.changing (.binding key handler (some old.handler))).step t
          handlers (c.withWorld world) =
        (.changing
          (Registration.Call.bound key handler (some old.handler) (.error fault)),
          (c.withWorld world).withTransport transport) :=
    Call.step_bound hCalm hBind
  apply Call.Ends.after hBound
  simp [Call.Ends, Call.steps, Call.step, Call.proceed, Call.panics,
    Registration.Call.step, Registration.Call.access,
    Registration.Call.bound, Registration.Call.unbound, callbacks,
    withWorld, withTransport, uninstall, hUsable, hTaken]

/- A subscription stays after a panic, with its handler cancelled. -/
theorem subscribe_panicked_taken
    (hPanics : t.panics key = true) :
    subscribe t handlers key handler c =
      (.error .panicked, c.withWorld world) := by
  apply run_cancelling (n := 1) hOpen hUsable hCheck hTaken hCancel ?_
    (by omega)
  exact Call.Ends.after (Call.step_panicked hPanics) rfl

end Subscribe

------------------------------------------------------------
-- Unsubscribing
------------------------------------------------------------

section Unsubscribe

variable {key : Key}
variable {c : Client H B τ ω}

/- A closed client unsubscribes nobody. -/
theorem unsubscribe_closed
    (hClosed : c.state.closed = true) :
    unsubscribe t handlers key c = (.error .closed, c) :=
  run_entering_closed _ hClosed

/- A key that cannot be used is refused. -/
theorem unsubscribe_refused
    {fault : Fault}
    (hOpen : c.state.closed = false)
    (hCheck : key.check = .error fault) :
    unsubscribe t handlers key c = (.error fault, c) := by
  apply run_entering (n := 1) hOpen ?_ (by omega)
  simp [Call.Ends, Call.steps, Call.step,
    Registration.Call.start, Registration.Call.checked, hCheck]

variable (hOpen : c.state.closed = false)
variable (hUsable : c.registry.poisoned = false)
variable (hCheck : key.check = .ok ())

include hOpen hUsable hCheck

/- There is nothing to give up without a subscription. -/
theorem unsubscribe_free
    (hFree : c.registry.table.get? key = none) :
    unsubscribe t handlers key c = (.error .notSubscribed, c) := by
  apply run_entering (n := 2) hOpen ?_ (by omega)
  simp [Call.Ends, Call.steps, Call.step, Call.proceed, Call.panics,
    Registration.Call.step, Registration.Call.start,
    Registration.Call.checked, Registration.Call.access,
    hCheck, hUsable, hFree]

/-
  A subscription is given up, whether its handler fails to be
  cancelled or not.
-/
theorem unsubscribe_taken
    {old : Subscription H B}
    (hTaken : c.registry.table.get? key = some old) :
    unsubscribe t handlers key c =
      (match (handlers.cancel old.handler c.state.world).1 with
        | .ok () => (t.unbind old.binding c.state.transport).1
        | .error detail => .error (.handlerCancel detail),
        ((c.withWorld
            (handlers.cancel old.handler c.state.world).2).withTransport
          (t.unbind old.binding c.state.transport).2).uninstall key) := by
  rcases hCancel : handlers.cancel old.handler c.state.world with
    ⟨outcome, world⟩
  have hRemove :
      (Call.changing (.start (.unsubscribe key))).step t handlers c =
        (.changing
          (.cancelling old.handler (.unbindRemoved old.binding)),
          c.uninstall key) := by
    simp [Call.step, Call.proceed, Call.panics, Registration.Call.step,
      Registration.Call.start, Registration.Call.checked,
      Registration.Call.access, uninstall, hCheck, hUsable, hTaken]
  have hRemoved :
      handlers.cancel old.handler (c.uninstall key).state.world =
        (outcome, world) := hCancel
  apply run_entering (n := 4) hOpen ?_ (by omega)
  apply Call.Ends.after hRemove
  apply Call.Ends.after (Call.step_cancelled hRemoved)
  -- The binding is given up in the two steps that are left.
  cases outcome with
  | ok answer => rfl
  | error detail => rfl

end Unsubscribe

------------------------------------------------------------
-- Closing
------------------------------------------------------------

section Close

variable {c : Client H B τ ω}

/- Closing once more does nothing. -/
theorem close_closed
    (hClosed : c.state.closed = true) :
    close t handlers c = (.ok (), c) := by
  have hStep :
      (Call.closing : Call H B).step t handlers c = (.done (.ok ()), c) := by
    simp [Call.step, hClosed]
  apply (Call.Ends.after hStep (Call.ends_done t handlers 0 _ c)).run
  unfold Call.mostSteps
  omega

/-
  Drained subscriptions are given up, one after the other, and
  then the connection is let go.
-/
theorem ends_clearing
    (given : List (Subscription H B))
    {c last : Client H B τ ω}
    {result : Except Fault Unit}
    (hDisconnect :
      Call.Ends t handlers 1 .disconnecting (c.giveUp t handlers given)
        result last) :
    Call.Ends t handlers (2 * given.length + 2)
      (.clearing (Registration.Call.giveUp given)) c result last := by
  induction given generalizing c with
  | nil => exact Call.Ends.after rfl hDisconnect
  | cons s rest ih =>
      have hRest := ih hDisconnect
      apply Call.Ends.after (n := 2 * rest.length + 3) rfl
      exact Call.Ends.after rfl hRest

/- Mark a client as closed, and forget its subscriptions. -/
def shut
    (c : Client H B τ ω) : Client H B τ ω :=
  { registry := { c.registry with table := .empty }
    state := { c.state with closed := true } }

/-
  Closing gives all subscriptions up and then lets go of the
  connection.
-/
theorem close_open
    (hOpen : c.state.closed = false)
    (hUsable : c.registry.poisoned = false) :
    close t handlers c =
      ((t.disconnect
          (c.shut.giveUp t handlers
            (c.registry.table.entries.map (·.2))).state.transport).1,
        (c.shut.giveUp t handlers
            (c.registry.table.entries.map (·.2))).withTransport
          (t.disconnect
            (c.shut.giveUp t handlers
              (c.registry.table.entries.map (·.2))).state.transport).2) := by
  let marked : Client H B τ ω :=
    { c with state := { c.state with closed := true } }
  have hClosing :
      (Call.closing : Call H B).step t handlers c =
        (.clearing (.start .clear), marked) := by
    simp [Call.step, hOpen, marked]
  have hDrain :
      (Call.clearing (.start .clear) : Call H B).step t handlers marked =
        (.clearing
            (Registration.Call.giveUp (c.registry.table.entries.map (·.2))),
          c.shut) := by
    simp [Call.step, Call.proceed, Call.panics, Registration.Call.start,
      Registration.Call.step, Registration.Call.access, hUsable, shut,
      marked]
  have hCleared :=
    Call.Ends.after hDrain
      (ends_clearing (c.registry.table.entries.map (·.2)) rfl)
  apply (Call.Ends.after hClosing hCleared).run
  rw [List.length_map]
  unfold Call.mostSteps Registration.Call.mostSteps Table.size
  omega

end Close

end Courier.Client
