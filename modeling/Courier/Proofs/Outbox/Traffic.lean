import Courier.Outbox.Flushing
import Courier.Proofs.Outbox.Buffer

/-
  This file defines what may happen on one outbox: any number
  of calls that publish items and any number of passes, all
  of which take their steps in any order.

  Key definitions include:
    * `Traffic`
    * `Traffic.Move`
    * `Traffic.step`
    * `Traffic.run`
    * `Traffic.Throughout`
    * `Publishing.unsettled`, `Flushing.held`
-/

namespace Courier

------------------------------------------------------------
-- Moves
------------------------------------------------------------

/- The calls and the passes on one outbox so far. -/
structure Traffic (α σ : Type) where
  shared : Shared α σ
  publishings : List (Publishing α)
  passes : List (Flushing α)

namespace Traffic

/- What happens next on an outbox. -/
inductive Move (α : Type) where
  /- A call hands an item in. -/
  | publish (item : α) (policy : EmitPolicy)
  /- A pass begins. -/
  | flush
  /- The call with a number takes its next step. -/
  | advance (call : Nat) (now : Instant)
  /- The pass with a number takes its next step. -/
  | retry (pass : Nat) (now : Instant)

/- A move with other items. -/
def Move.map
    {α β : Type}
    (f : α → β) : Move α → Move β
  | publish item policy => publish (f item) policy
  | flush => flush
  | advance call now => advance call now
  | retry pass now => retry pass now

/- The items that a move hands in. -/
def Move.items
    {α : Type} : Move α → List α
  | publish item _ => [item]
  | _ => []

variable {α σ : Type}

/- An outbox that nobody has used yet. -/
def create
    (capacity : Nat)
    (s : σ) : Traffic α σ where
  shared := { store := s, buffer := .create capacity }
  publishings := []
  passes := []

/-
  Make a move.  A call or a pass that has not begun takes no
  steps.
-/
def step
    (store : Store α σ)
    (limit : Duration)
    (move : Move α)
    (t : Traffic α σ) : Traffic α σ :=
  match move with
  | .publish item policy =>
      { t with publishings := t.publishings ++ [.probing item policy] }
  | .flush => { t with passes := t.passes ++ [.starting] }
  | .advance n now =>
      match t.publishings[n]? with
      | none => t
      | some p =>
          let (p, s) := p.step store limit now t.shared
          { t with shared := s, publishings := t.publishings.set n p }
  | .retry n now =>
      match t.passes[n]? with
      | none => t
      | some f =>
          let (f, s) := f.step store limit now t.shared
          { t with shared := s, passes := t.passes.set n f }

/- Make some moves, one after the other. -/
def run
    (store : Store α σ)
    (limit : Duration) :
    List (Move α) → Traffic α σ → Traffic α σ
  | [], t => t
  | move :: rest, t => run store limit rest (step store limit move t)

/- A property holds at any time of a run. -/
def Throughout
    (store : Store α σ)
    (limit : Duration)
    (P : Traffic α σ → Prop) :
    List (Move α) → Traffic α σ → Prop
  | [], t => P t
  | move :: rest, t =>
      P t ∧ Throughout store limit P rest (step store limit move t)

/- It holds at the beginning. -/
theorem Throughout.start
    {store : Store α σ}
    {limit : Duration}
    {P : Traffic α σ → Prop}
    {moves : List (Move α)}
    {t : Traffic α σ}
    (h : t.Throughout store limit P moves) :
    P t := by
  cases moves with
  | nil => exact h
  | cons move rest => exact h.1

instance decidableThroughout
    (store : Store α σ)
    (limit : Duration)
    (P : Traffic α σ → Prop)
    [DecidablePred P] :
    (moves : List (Move α)) → (t : Traffic α σ) →
      Decidable (t.Throughout store limit P moves)
  | [], t => inferInstanceAs (Decidable (P t))
  | move :: rest, t =>
      have := decidableThroughout store limit P rest
        (step store limit move t)
      inferInstanceAs (Decidable (_ ∧ _))

end Traffic

------------------------------------------------------------
-- Items in hand
------------------------------------------------------------

/- The items that a call has neither appended nor handed on. -/
def Publishing.unsettled
    {α : Type} : Publishing α → List α
  | probing item _ => [item]
  | appending item _ => [item]
  | buffering item => [item]
  | done _ => []

/- The items that a pass holds. -/
def Flushing.held
    {α : Type} : Flushing α → List α
  | offering _ batch => batch
  | requeueing _ failed => failed
  | _ => []

/- The items that make way in the next step of a call. -/
def Publishing.evicting
    {α σ : Type}
    (s : Shared α σ) : Publishing α → List α
  | buffering item => (s.buffer.push item).1.toList
  | _ => []

/- The items that make way in the next step of a pass. -/
def Flushing.evicting
    {α σ : Type}
    (s : Shared α σ) : Flushing α → List α
  | requeueing _ failed => s.buffer.overflow (failed ++ s.buffer.items)
  | _ => []

/- The items that make way in a move. -/
def Traffic.evicting
    {α β σ : Type}
    (t : Traffic α σ) : Move β → List α
  | .advance n _ =>
      match t.publishings[n]? with
      | none => []
      | some p => p.evicting t.shared
  | .retry n _ =>
      match t.passes[n]? with
      | none => []
      | some f => f.evicting t.shared
  | _ => []

end Courier
