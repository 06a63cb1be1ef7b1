import Courier.Proofs.Registration.Reference
import Courier.Proofs.Registration.Stages

/-
  This file defines all that may happen on one registry: any
  number of calls, which take their steps in any order.  While
  a call waits for a callback all other calls may go on, those
  included that the callback makes itself.  A callback comes
  out as it likes.  At any time the lock on the table may be
  left poisoned, and the table may be read in another order.

  Beside the registry, traffic keeps what an onlooker sees:
  what the calls asked for, where they stand, and the
  callbacks that came to an end, with the numbers of the calls
  that they ran for.

  Bindings are told apart by their identity, as handlers are:
  no callback makes a binding that was made before.

  Key definitions include:
    * `Call.Goes`
    * `Traffic`
    * `Traffic.Step`, `Traffic.Reachable`
    * `Traffic.bound`, `Traffic.unbound`

  Main statements:
    * `Call.goes_step`
    * `Traffic.Reachable.log_extends`, `Traffic.Reachable.log_subset`
-/

namespace Courier.Registration

variable {H B : Type}

------------------------------------------------------------
-- Callbacks that came to an end
------------------------------------------------------------

/- The binding that a callback made. -/
def Happening.bound? : Happening H B → Option B
  | .bind _ _ (.ok b) => some b
  | _ => none

/- The binding that a callback gave up, or failed to. -/
def Happening.unbound? : Happening H B → Option B
  | .unbind b _ => some b
  | _ => none

------------------------------------------------------------
-- Steps of a call
------------------------------------------------------------

/-
  A call takes a step, with the callback that comes to an end
  by it.
-/
inductive Call.Goes
    [DecidableEq H]
    (r : Registry H B) :
    Call H B → Option (Happening H B) → Call H B → Registry H B → Prop where
  | access
      (a : Access H B) :
      Goes r (.accessing a) none (access a r).1 (access a r).2
  | cancel
      (handler : H)
      (next : AfterCancel H B)
      (outcome : Except String Unit) :
      Goes r (.cancelling handler next)
        (some (.cancel handler outcome))
        (cancelled handler next outcome) r
  | bind
      (key : Key)
      (handler : H)
      (old : Option H)
      (outcome : Except Fault B) :
      Goes r (.binding key handler old)
        (some (.bind key handler outcome))
        (bound key handler old outcome) r
  | unbind
      (b : B)
      (next : AfterUnbind H B)
      (outcome : Except Fault Unit) :
      Goes r (.unbinding b next)
        (some (.unbind b outcome))
        (unbound next outcome) r

/- A call that is run takes such steps, and keeps its journal so. -/
theorem Call.goes_step
    {σ : Type}
    [DecidableEq H]
    (answers : Answers H B σ)
    (c : Call H B)
    (s : Scene H B (Journal H B σ))
    (hGoing : ∀ result, c ≠ .done result) :
    ∃ happening,
      c.Goes s.registry happening
        (c.step answers.callbacks s).1
        (c.step answers.callbacks s).2.registry ∧
      (c.step answers.callbacks s).2.state.log =
        s.state.log ++ happening.toList := by
  cases c with
  | accessing a => exact ⟨none, .access a, (List.append_nil _).symm⟩
  | cancelling handler next => exact ⟨_, .cancel handler next _, rfl⟩
  | binding key handler old => exact ⟨_, .bind key handler old _, rfl⟩
  | unbinding b next => exact ⟨_, .unbind b next _, rfl⟩
  | done result => exact absurd rfl (hGoing result)

------------------------------------------------------------
-- Traffic
------------------------------------------------------------

/- A registry, with all that was seen on it so far. -/
structure Traffic (H B : Type) where
  registry : Registry H B
  /- What the calls asked for, and where they stand. -/
  calls : List (Request H × Call H B)
  /- The callbacks that came to an end, with the numbers of their calls. -/
  log : List (Nat × Happening H B)

namespace Traffic

/- A registry that nobody has used yet. -/
def start : Traffic H B where
  registry := .empty
  calls := []
  log := []

/- The bindings that were made, oldest first. -/
def bound
    (s : Traffic H B) : List B :=
  s.log.filterMap (·.2.bound?)

/- The bindings that were given up, oldest first. -/
def unbound
    (s : Traffic H B) : List B :=
  s.log.filterMap (·.2.unbound?)

/- What may happen next. -/
inductive Step
    [DecidableEq H]
    (s : Traffic H B) : Traffic H B → Prop where
  /- Somebody makes a call, be it from within a callback. -/
  | ask
      (request : Request H) :
      Step s { s with calls := s.calls ++ [(request, .start request)] }
  /- A call takes its next step. -/
  | advance
      (i : Nat)
      {request : Request H}
      {call call' : Call H B}
      {r : Registry H B}
      {happening : Option (Happening H B)}
      (hAt : s.calls[i]? = some (request, call))
      (hGoes : call.Goes s.registry happening call' r)
      (hNew : ∀ b ∈ happening.bind Happening.bound?, b ∉ s.bound) :
      Step s
        { registry := r
          calls := s.calls.set i (request, call')
          log := s.log ++ happening.toList.map (i, ·) }
  /- The lock on the table is left poisoned. -/
  | poison :
      Step s { s with registry := s.registry.poison }
  /- The table is read in another order from now on. -/
  | reorder
      {r : Registry H B}
      (hReordered : s.registry.Reordered r) :
      Step s { s with registry := r }

/- What can come after a number of steps. -/
inductive Reachable
    [DecidableEq H]
    (first : Traffic H B) : Traffic H B → Prop where
  | start : Reachable first first
  | step
      {s s' : Traffic H B}
      (hEarlier : Reachable first s)
      (hStep : Step s s') :
      Reachable first s'

------------------------------------------------------------
-- What stays
------------------------------------------------------------

section Frame

variable [DecidableEq H]
variable {s s' : Traffic H B}

/- What comes later can come. -/
theorem Reachable.trans
    {first : Traffic H B}
    (hEarlier : Reachable first s)
    (hLater : Reachable s s') :
    Reachable first s' := by
  induction hLater with
  | start => exact hEarlier
  | step _ hStep ih => exact ih.step hStep

/- Nothing is struck out of the log, and what happens joins its end. -/
theorem Step.log_extends
    (hStep : Step s s') :
    s.log <+: s'.log := by
  cases hStep with
  | ask request => exact List.prefix_refl _
  | advance i hAt hGoes hNew => exact List.prefix_append _ _
  | poison => exact List.prefix_refl _
  | reorder hReordered => exact List.prefix_refl _

theorem Reachable.log_extends
    (hLater : Reachable s s') :
    s.log <+: s'.log := by
  induction hLater with
  | start => exact List.prefix_refl _
  | step _ hStep ih => exact ih.trans hStep.log_extends

theorem Step.log_subset
    (hStep : Step s s') :
    s.log ⊆ s'.log :=
  hStep.log_extends.subset

theorem Reachable.log_subset
    (hLater : Reachable s s') :
    s.log ⊆ s'.log :=
  hLater.log_extends.subset

/- A call goes on asking for what it asked for. -/
theorem Step.request_stays
    (hStep : Step s s')
    {i : Nat}
    {request : Request H}
    {call : Call H B}
    (hAt : s.calls[i]? = some (request, call)) :
    ∃ call', s'.calls[i]? = some (request, call') := by
  cases hStep with
  | ask other =>
      have hBound := (List.getElem?_eq_some_iff.mp hAt).1
      exact ⟨call, (List.getElem?_append_left hBound).trans hAt⟩
  | @advance j _ _ call' _ _ hAt' hGoes hNew =>
      by_cases hSame : j = i
      · subst hSame
        rw [hAt] at hAt'
        cases hAt'
        have hBound := (List.getElem?_eq_some_iff.mp hAt).1
        exact ⟨call', List.getElem?_set_self hBound⟩
      · exact ⟨call, (List.getElem?_set_ne hSame).trans hAt⟩
  | poison => exact ⟨call, hAt⟩
  | reorder hReordered => exact ⟨call, hAt⟩

/- A lock that is not poisoned never was. -/
theorem Step.usable
    (hStep : Step s s')
    (hUsable : s'.registry.poisoned = false) :
    s.registry.poisoned = false := by
  cases hStep with
  | ask request => exact hUsable
  | advance i hAt hGoes hNew =>
      cases hGoes with
      | access a => exact (Call.poisoned_access a s.registry).symm.trans hUsable
      | cancel handler next outcome => exact hUsable
      | bind key handler old outcome => exact hUsable
      | unbind b next outcome => exact hUsable
  | poison => exact absurd hUsable nofun
  | reorder hReordered => exact hReordered.2.trans hUsable

end Frame

end Traffic

end Courier.Registration
