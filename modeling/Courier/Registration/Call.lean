import Courier.Registration.Table
import Courier.Topic.Pattern

/-
  This file defines registries of subscriptions, and the
  calls that change them, step by step.

  A registry maps each key to the handler that messages go to
  and to the binding that feeds it.  A call accesses the table
  in single steps.  Between them it waits for callbacks: a
  handler is cancelled, a new binding is made, or a binding is
  given up.  Other calls may take steps meanwhile, those
  included that a callback makes itself.

  A handler is known by its identity, so that one handler may
  be passed to several calls.

  Key definitions include:
    * `Registry`
    * `Registry.route`
    * `Call`
    * `Call.access`
    * `Call.cancelled`
    * `Call.bound`
    * `Call.unbound`
-/

namespace Courier.Registration

------------------------------------------------------------
-- Registries
------------------------------------------------------------

/- An active subscription. -/
structure Subscription (H B : Type) where
  /- The handler that messages go to. -/
  handler : H
  /- The binding that feeds it. -/
  binding : B
  deriving DecidableEq, Repr

/- The subscriptions of a client. -/
structure Registry (H B : Type) where
  table : Table (Subscription H B)
  /- Whether the lock on the table was left poisoned. -/
  poisoned : Bool

namespace Registry

variable {H B : Type}

/- The registry without subscriptions. -/
def empty : Registry H B where
  table := .empty
  poisoned := false

/- How many subscriptions can be seen. -/
def size
    (r : Registry H B) : Nat :=
  if r.poisoned then 0 else r.table.size

/- Whether a key can be seen to have a subscription. -/
def contains
    (r : Registry H B)
    (key : Key) : Bool :=
  !r.poisoned && r.table.contains key

/- The subscriptions whose patterns cover a subject. -/
def matching
    (r : Registry H B)
    (subject : String) : List (Key × Subscription H B) :=
  r.table.entries.filter fun entry => Topic.covers entry.1.topic subject

/- The subscriptions that a message on a subject goes to. -/
def route
    (r : Registry H B)
    (subject : String) :
    Except Fault (List (Key × Subscription H B)) :=
  if r.poisoned then
    .error (.lockPoisoned "route")
  else
    .ok (r.matching subject)

/- Leave the lock poisoned. -/
def poison
    (r : Registry H B) : Registry H B :=
  { r with poisoned := true }

end Registry

------------------------------------------------------------
-- Calls
------------------------------------------------------------

/- What a call asks for. -/
inductive Request (H : Type) where
  /- Let a handler have the messages of a key. -/
  | subscribe (key : Key) (handler : H)
  /- Give the subscription of a key up. -/
  | unsubscribe (key : Key)
  /- Give all subscriptions up. -/
  | clear
  deriving DecidableEq, Repr

/- A step of a call in which it accesses the table. -/
inductive Access (H B : Type) where
  /- Look for a handler to replace. -/
  | find (key : Key) (handler : H)
  /- Put a new subscription in, after a handler was cancelled. -/
  | install
      (key : Key) (handler : H) (binding : B) (old : Option H)
  /- Take a cancelled handler out, as there is no new binding. -/
  | retract (key : Key) (old : H) (fault : Fault)
  /- Take a subscription out. -/
  | remove (key : Key)
  /- Take all subscriptions out. -/
  | drain
  deriving DecidableEq, Repr

/- What a call goes on with after a handler was cancelled. -/
inductive AfterCancel (H B : Type) where
  /- Make the binding of the new handler, unless cancelling failed. -/
  | bind (key : Key) (handler : H)
  /- Give the replaced binding up. -/
  | unbindReplaced (binding : B)
  /- Give the removed binding up. -/
  | unbindRemoved (binding : B)
  /- Give the drained binding up, then go on with the others. -/
  | unbindDrained (binding : B) (rest : List (Subscription H B))
  deriving DecidableEq, Repr

/- What a call goes on with after a binding was given up. -/
inductive AfterUnbind (H B : Type) where
  /- Return, whether it failed or not. -/
  | answer (result : Except Fault Unit)
  /- Return what cancelling came to, or else what unbinding did. -/
  | report (cancelled : Except Fault Unit)
  /- Go on with the other drained subscriptions. -/
  | goOn (rest : List (Subscription H B))

/- Where a call stands. -/
inductive Call (H B : Type) where
  /- It is about to access the table. -/
  | accessing (access : Access H B)
  /- A handler is being cancelled. -/
  | cancelling (handler : H) (next : AfterCancel H B)
  /- The binding of a new handler is being made. -/
  | binding (key : Key) (handler : H) (old : Option H)
  /- A binding is being given up. -/
  | unbinding (binding : B) (next : AfterUnbind H B)
  /- It has returned. -/
  | done (result : Except Fault Unit)

namespace Call

variable {H B : Type}

/- Go on with a call on a key that can be used. -/
def checked
    (key : Key)
    (access : Access H B) : Call H B :=
  match key.check with
  | .error fault => done (.error fault)
  | .ok () => accessing access

/- Where a call starts. -/
def start : Request H → Call H B
  | .subscribe key handler => checked key (.find key handler)
  | .unsubscribe key => checked key (.remove key)
  | .clear => accessing .drain

/- Give drained subscriptions up, one after the other. -/
def giveUp : List (Subscription H B) → Call H B
  | [] => done (.ok ())
  | s :: rest => cancelling s.handler (.unbindDrained s.binding rest)

/- Go on after a new subscription took the place of an old one. -/
def replaced
    [DecidableEq H]
    (old : Option H)
    (s : Subscription H B) : Call H B :=
  if old = some s.handler then
    unbinding s.binding (.answer (.ok ()))
  else
    cancelling s.handler (.unbindReplaced s.binding)

/- Access the table. -/
def access
    [DecidableEq H]
    (a : Access H B)
    (r : Registry H B) : Call H B × Registry H B :=
  match a with
  | .find key handler =>
      if r.poisoned then
        (done (.error (.lockPoisoned "subscribe")), r)
      else
        match r.table.get? key with
        | some s => (cancelling s.handler (.bind key handler), r)
        | none => (binding key handler none, r)
  | .install key handler b old =>
      if r.poisoned then
        (unbinding b (.answer (.error (.lockPoisoned "subscribe"))), r)
      else
        let installed :=
          { r with table := r.table.insert key ⟨handler, b⟩ }
        match r.table.get? key with
        | some s => (replaced old s, installed)
        | none => (done (.ok ()), installed)
  | .retract key old fault =>
      if r.poisoned then
        (done (.error fault), r)
      else
        match r.table.get? key with
        | some s =>
            if s.handler = old then
              (unbinding s.binding (.answer (.error fault)),
                { r with table := r.table.erase key })
            else
              (done (.error fault), r)
        | none => (done (.error fault), r)
  | .remove key =>
      if r.poisoned then
        (done (.error (.lockPoisoned "unsubscribe")), r)
      else
        match r.table.get? key with
        | some s =>
            (cancelling s.handler (.unbindRemoved s.binding),
              { r with table := r.table.erase key })
        | none => (done (.error .notSubscribed), r)
  | .drain =>
      if r.poisoned then
        (done (.error (.lockPoisoned "clear")), r)
      else
        (giveUp (r.table.entries.map (·.2)), { r with table := .empty })

/- What a failure to cancel is reported as. -/
def cancelFault : Except String Unit → Except Fault Unit
  | .ok () => .ok ()
  | .error detail => .error (.handlerCancel detail)

/- Go on after a handler was cancelled, or failed to be. -/
def cancelled
    (handler : H)
    (next : AfterCancel H B)
    (outcome : Except String Unit) : Call H B :=
  match next with
  | .bind key new =>
      match cancelFault outcome with
      | .ok () => binding key new (some handler)
      | .error fault => done (.error fault)
  | .unbindReplaced b => unbinding b (.answer (.ok ()))
  | .unbindRemoved b => unbinding b (.report (cancelFault outcome))
  | .unbindDrained b rest => unbinding b (.goOn rest)

/- Go on after a binding was made, or failed to be. -/
def bound
    (key : Key)
    (handler : H)
    (old : Option H)
    (outcome : Except Fault B) : Call H B :=
  match outcome with
  | .ok b => accessing (.install key handler b old)
  | .error fault =>
      match old with
      | some h => accessing (.retract key h fault)
      | none => done (.error fault)

/- Go on after a binding was given up, or failed to be. -/
def unbound
    (next : AfterUnbind H B)
    (outcome : Except Fault Unit) : Call H B :=
  match next with
  | .answer result => done result
  | .report (.ok ()) => done outcome
  | .report (.error fault) => done (.error fault)
  | .goOn rest => giveUp rest

/- What a call returned; a call in progress has no fault yet. -/
def result : Call H B → Except Fault Unit
  | done result => result
  | _ => .ok ()

end Call

end Courier.Registration
