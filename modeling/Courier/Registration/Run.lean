import Courier.Registration.Call

/-
  This file defines how calls on a registry are run to their
  end, one after the other.  The callbacks act on a state of
  their own and, if they make calls themselves, on the
  registry.

  Key definitions include:
    * `Callbacks`
    * `Call.step`
    * `Call.run`
-/

namespace Courier.Registration

/- A registry, and the state that callbacks act on. -/
structure Scene (H B σ : Type) where
  registry : Registry H B
  state : σ

/- What the callbacks of a registry do. -/
structure Callbacks (H B σ : Type) where
  /- Cancel a handler. -/
  cancel : H → Scene H B σ → Except String Unit × Scene H B σ
  /- Make the binding of a new handler. -/
  bind : Key → H → Scene H B σ → Except Fault B × Scene H B σ
  /- Give a binding up. -/
  unbind : B → Scene H B σ → Except Fault Unit × Scene H B σ

namespace Call

variable {H B σ : Type}

/- Take the next step, or let the callback at hand run. -/
def step
    [DecidableEq H]
    (callbacks : Callbacks H B σ)
    (c : Call H B)
    (s : Scene H B σ) : Call H B × Scene H B σ :=
  match c with
  | accessing a =>
      let (c, r) := access a s.registry
      (c, { s with registry := r })
  | cancelling handler next =>
      let (outcome, s) := callbacks.cancel handler s
      (cancelled handler next outcome, s)
  | binding key handler old =>
      let (outcome, s) := callbacks.bind key handler s
      (bound key handler old outcome, s)
  | unbinding b next =>
      let (outcome, s) := callbacks.unbind b s
      (unbound next outcome, s)
  | done result => (done result, s)

/- Take a number of steps. -/
def steps
    [DecidableEq H]
    (callbacks : Callbacks H B σ) :
    Nat → Call H B → Scene H B σ → Call H B × Scene H B σ
  | 0, c, s => (c, s)
  | n + 1, c, s =>
      let (c, s) := c.step callbacks s
      steps callbacks n c s

/-
  The number of steps after which a call has returned that
  started with some subscriptions in the table.
-/
def mostSteps
    (n : Nat) : Nat :=
  2 * n + 6

/- Make a call and run it to its end. -/
def run
    [DecidableEq H]
    (callbacks : Callbacks H B σ)
    (request : Request H)
    (s : Scene H B σ) : Except Fault Unit × Scene H B σ :=
  let (c, s) :=
    steps callbacks (mostSteps s.registry.table.size) (start request) s
  (c.result, s)

end Call

end Courier.Registration
