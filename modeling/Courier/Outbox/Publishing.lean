import Courier.Outbox.Buffer
import Courier.Outbox.Store

/-
  This file defines how an item is published through an
  outbox, step by step.  Each step looks at or changes the
  shared state once, so the steps of several calls may be
  taken in any order.

  The store is probed first.  Where it cannot be reached the
  item waits in the buffer; where it can, the item is
  appended, and waits in the buffer if the store went away
  meanwhile.  An item that the store refuses never waits.

  Key definitions include:
    * `Shared`
    * `EmitPolicy`
    * `Publishing`
    * `Publishing.step`
    * `Publishing.run`
-/

namespace Courier

/- What the calls on one outbox share. -/
structure Shared (α σ : Type) where
  store : σ
  buffer : Buffer α

/- Whether a caller hears that the store refused an item. -/
inductive EmitPolicy where
  /- The failure is returned. -/
  | required
  /- The failure is passed over. -/
  | bestEffort
  deriving DecidableEq, Repr

/- Where the publishing of an item stands. -/
inductive Publishing (α : Type) where
  /- The store is about to be probed. -/
  | probing (item : α) (policy : EmitPolicy)
  /- The item is about to be appended. -/
  | appending (item : α) (policy : EmitPolicy)
  /- The item is about to wait. -/
  | buffering (item : α)
  /- The call has returned. -/
  | done (result : Except OutboxFault Unit)

namespace Publishing

variable {α σ : Type}

/- What a caller hears about an item that the store refused. -/
def refusal
    (policy : EmitPolicy)
    (fault : StoreFault) : Except OutboxFault Unit :=
  match policy with
  | .required => .error (.append fault)
  | .bestEffort => .ok ()

/- Take the next step. -/
def step
    (store : Store α σ)
    (limit : Duration)
    (now : Instant)
    (p : Publishing α)
    (s : Shared α σ) : Publishing α × Shared α σ :=
  match p with
  | probing item policy =>
      let (verdict, inner) := store.check limit s.store
      match verdict with
      | .ok () => (appending item policy, { s with store := inner })
      | .error _ => (buffering item, { s with store := inner })
  | appending item policy =>
      let (answer, inner) := store.append now item s.store
      match answer with
      | .ok _ => (done (.ok ()), { s with store := inner })
      | .error fault =>
          if fault.isConnection then
            (buffering item, { s with store := inner })
          else
            (done (refusal policy fault), { s with store := inner })
  | buffering item =>
      (done (.ok ()), { s with buffer := (s.buffer.push item).2 })
  | done result => (done result, s)

/- The number of steps after which a call has returned. -/
def mostSteps : Nat :=
  3

/- Take a number of steps. -/
def steps
    (store : Store α σ)
    (limit : Duration)
    (now : Instant) :
    Nat → Publishing α → Shared α σ → Publishing α × Shared α σ
  | 0, p, s => (p, s)
  | n + 1, p, s =>
      let (p, s) := p.step store limit now s
      steps store limit now n p s

/- What a call returned; a call in progress has no fault yet. -/
def result : Publishing α → Except OutboxFault Unit
  | done result => result
  | _ => .ok ()

/- Publish an item while no other call takes steps. -/
def run
    (store : Store α σ)
    (limit : Duration)
    (now : Instant)
    (item : α)
    (policy : EmitPolicy)
    (s : Shared α σ) : Except OutboxFault Unit × Shared α σ :=
  let (p, s) := steps store limit now mostSteps (probing item policy) s
  (p.result, s)

end Publishing

end Courier
