import Courier.Proofs.Registration.Bindings
import Courier.Proofs.Registration.Dues
import Courier.Proofs.Transport.Advance

/-
  This file defines all that may happen on one client, on any
  transport: any number of calls that subscribe, unsubscribe
  and close, which take their steps in any order.  While a
  call waits for a callback all other calls may go on, those
  included that the callback makes itself.  Messages, outages
  and deliveries may change the transport, and the world that
  handlers act on, in any way at any time.  The lock on the
  table may be left poisoned, and the table may be read in
  another order.

  Beside the client, traffic keeps what an onlooker sees: what
  the calls asked for, where they stand, and the callbacks that
  came to an end, with the numbers of the calls that they ran
  for.

  Key definitions include:
    * `Client.Call.Goes`
    * `Client.Traffic`
    * `Client.Traffic.Step`, `Client.Traffic.Reachable`
    * `Client.Traffic.Conserved`, `Client.Traffic.Covered`

  Main statements:
    * `Client.Call.goes_of_step`
    * `Client.Call.owned_goes`, `Client.Call.due_goes`
    * `Client.Traffic.Reachable.conserved`
    * `Client.Traffic.Reachable.covered`
-/

namespace Courier.Client

open Registration

variable {H B τ ω : Type}

------------------------------------------------------------
-- Steps of a call
------------------------------------------------------------

/-
  The callback that comes to an end when a call takes a step.
  One that breaks off in a panic comes to none.
-/
def Call.happening?
    (t : Transport H B τ)
    (handlers : Handlers H ω)
    (call : Call H B)
    (c : Client H B τ ω) : Option (Happening H B) :=
  match call.inner? with
  | some (.cancelling handler _) =>
      some (.cancel handler (handlers.cancel handler c.state.world).1)
  | some (.binding key handler _) =>
      if t.panics key then
        none
      else
        some (.bind key handler (t.bind key handler c.state.transport).1)
  | some (.unbinding b _) =>
      some (.unbind b (t.unbind b c.state.transport).1)
  | _ => none

/-
  All that a step of a call can do to the subscriptions of a
  client and to the mark that it is closed.
-/
inductive Call.Goes
    [DecidableEq H]
    (closed : Bool)
    (r : Registry H B) :
    Call H B → Option (Happening H B) →
      Call H B → Bool → Registry H B → Prop where
  /- The call on the registry takes a step. -/
  | changes
      {inner inner' : Registration.Call H B}
      {happening : Option (Happening H B)}
      {r' : Registry H B}
      (hInner : inner.Goes r happening inner' r') :
      Goes closed r (changing inner) happening (changing inner') closed r'
  | clears
      {inner inner' : Registration.Call H B}
      {happening : Option (Happening H B)}
      {r' : Registry H B}
      (hInner : inner.Goes r happening inner' r') :
      Goes closed r (clearing inner) happening (clearing inner') closed r'
  /- The transport panics at the key that is to be bound. -/
  | broke
      {call : Call H B}
      {key : Key}
      {handler : H}
      {old : Option H}
      (hInner : call.inner? = some (.binding key handler old)) :
      Goes closed r call none (done (.error .panicked)) closed r
  /- A closed client lets no call in. -/
  | refused
      (request : Request H)
      (hClosed : closed = true) :
      Goes closed r (entering request) none
        (done (.error .closed)) closed r
  | entered
      (request : Request H)
      (hOpen : closed = false) :
      Goes closed r (entering request) none
        (changing (.start request)) closed r
  | changed
      (result : Except Fault Unit) :
      Goes closed r (changing (.done result)) none
        (done result) closed r
  /- The client was closed before. -/
  | again
      (hClosed : closed = true) :
      Goes closed r closing none (done (.ok ())) closed r
  | marked
      (hOpen : closed = false) :
      Goes closed r closing none (clearing (.start .clear)) true r
  | cleared :
      Goes closed r (clearing (.done (.ok ()))) none
        disconnecting closed r
  | failed
      (fault : Fault) :
      Goes closed r (clearing (.done (.error fault))) none
        (done (.error fault)) closed r
  | disconnected
      (result : Except Fault Unit) :
      Goes closed r disconnecting none (done result) closed r
  | returned
      (result : Except Fault Unit) :
      Goes closed r (done result) none (done result) closed r

/- A call on the registry goes on within the call of a client. -/
theorem Call.goes_within
    [DecidableEq H]
    (t : Transport H B τ)
    (handlers : Handlers H ω)
    (c : Client H B τ ω)
    {call : Call H B}
    {inner : Registration.Call H B}
    (hInner : call.inner? = some inner)
    (hGoing : ∀ result, ¬ inner = .done result)
    (hCalm : panics t inner = false) :
    inner.Goes c.registry (call.happening? t handlers c)
        (inner.step (callbacks t handlers) c).1
        (inner.step (callbacks t handlers) c).2.registry ∧
      (inner.step (callbacks t handlers) c).2.state.closed =
        c.state.closed := by
  rw [happening?, hInner]
  cases inner with
  | accessing a => exact ⟨.access a, rfl⟩
  | cancelling handler next => exact ⟨.cancel handler next _, rfl⟩
  | binding key handler old =>
      have hBinds : t.panics key = false := hCalm
      simp only [hBinds, Bool.false_eq_true, if_false]
      exact ⟨.bind key handler old _, rfl⟩
  | unbinding b next => exact ⟨.unbind b next _, rfl⟩
  | done result => exact absurd rfl (hGoing result)

/- A call that breaks off has no callback that comes to an end. -/
theorem Call.happening?_of_panics
    {t : Transport H B τ}
    {handlers : Handlers H ω}
    {c : Client H B τ ω}
    {call : Call H B}
    {key : Key}
    {handler : H}
    {old : Option H}
    (hInner : call.inner? = some (.binding key handler old))
    (hPanics : t.panics key = true) :
    call.happening? t handlers c = none := by
  simp [happening?, hInner, hPanics]

/- What a step of a call does, on any transport. -/
theorem Call.goes_step
    [DecidableEq H]
    (t : Transport H B τ)
    (handlers : Handlers H ω)
    (call : Call H B)
    (c : Client H B τ ω) :
    Call.Goes c.state.closed c.registry call
      (call.happening? t handlers c)
      (call.step t handlers c).1
      (call.step t handlers c).2.state.closed
      (call.step t handlers c).2.registry := by
  cases call with
  | entering request =>
      cases hClosed : c.state.closed with
      | true => simpa [step, hClosed] using .refused request rfl
      | false => simpa [step, hClosed] using .entered request rfl
  | changing inner =>
      by_cases hDone : ∃ result, inner = .done result
      · rcases hDone with ⟨result, rfl⟩
        exact .changed result
      · have hGoing := not_exists.mp hDone
        have hSelf : (changing inner).inner? = some inner := rfl
        rw [step_within (Or.inl rfl) t handlers c hGoing]
        rcases proceed_cases t handlers changing inner c with
          ⟨hCalm, hProceeds⟩ | ⟨key, handler, old, rfl, hPanics, hBreaks⟩
        · rcases goes_within t handlers c hSelf hGoing hCalm with
            ⟨hInner, hMark⟩
          rw [hProceeds, hMark]
          exact .changes hInner
        · rw [hBreaks, happening?_of_panics hSelf hPanics]
          exact .broke hSelf
  | closing =>
      cases hClosed : c.state.closed with
      | true => simpa [step, hClosed] using .again rfl
      | false => simpa [step, hClosed] using .marked rfl
  | clearing inner =>
      by_cases hDone : ∃ result, inner = .done result
      · rcases hDone with ⟨fault | ⟨⟩, rfl⟩
        · exact .failed fault
        · exact .cleared
      · have hGoing := not_exists.mp hDone
        have hSelf : (clearing inner).inner? = some inner := rfl
        rw [step_within (Or.inr rfl) t handlers c hGoing]
        rcases proceed_cases t handlers clearing inner c with
          ⟨hCalm, hProceeds⟩ | ⟨key, handler, old, rfl, hPanics, hBreaks⟩
        · rcases goes_within t handlers c hSelf hGoing hCalm with
            ⟨hInner, hMark⟩
          rw [hProceeds, hMark]
          exact .clears hInner
        · rw [hBreaks, happening?_of_panics hSelf hPanics]
          exact .broke hSelf
  | disconnecting => exact .disconnected _
  | done result => exact .returned result

theorem Call.goes_of_step
    [DecidableEq H]
    {t : Transport H B τ}
    {handlers : Handlers H ω}
    {call call' : Call H B}
    {c c' : Client H B τ ω}
    (hStep : call.step t handlers c = (call', c')) :
    call.Goes c.state.closed c.registry (call.happening? t handlers c)
      call' c'.state.closed c'.registry := by
  have hGoes := goes_step t handlers call c
  rw [hStep] at hGoes
  exact hGoes

------------------------------------------------------------
-- What a call has in hand
------------------------------------------------------------

namespace Call

/- The handlers that a call is to put in, or took out to cancel. -/
def due
    (call : Call H B) : Multiset H :=
  (call.inner?.map Registration.Call.due).getD 0

/- The handler that a call cancelled before taking it out. -/
def advanced
    (call : Call H B) : Multiset H :=
  (call.inner?.map Registration.Call.advanced).getD 0

/- The handler that a call was let in to put in, and has not yet. -/
def incoming?
    (call : Call H B) : Option (Key × H) :=
  call.inner?.bind Registration.Call.incoming?

/- What a call has in hand is what its call on the registry has. -/
theorem due_eq
    {call : Call H B}
    {c : Registration.Call H B}
    (hInner : call.inner? = some c) :
    call.due = c.due := by
  simp [due, hInner]

theorem advanced_eq
    {call : Call H B}
    {c : Registration.Call H B}
    (hInner : call.inner? = some c) :
    call.advanced = c.advanced := by
  simp [advanced, hInner]

theorem incoming?_eq
    {call : Call H B}
    {c : Registration.Call H B}
    (hInner : call.inner? = some c) :
    call.incoming? = c.incoming? := by
  simp [incoming?, hInner]

/- A call has no call on the registry that is in progress. -/
def Resting
    (call : Call H B) : Prop :=
  ∀ c, call.inner? = some c →
    (∃ request, c = .start request) ∨ ∃ result, c = .done result

/- Such a call has nothing in hand. -/
theorem Resting.emptyHanded
    {call : Call H B}
    (hResting : call.Resting) :
    call.owned = 0 ∧ call.due = 0 ∧ call.advanced = 0 := by
  cases hInner : call.inner? with
  | none => simp [owned, due, advanced, hInner]
  | some c =>
      rw [owned_eq hInner, due_eq hInner, advanced_eq hInner]
      rcases hResting c hInner with ⟨request, rfl⟩ | ⟨result, rfl⟩
      · exact
          ⟨Registration.Call.owned_start request,
            Registration.Call.due_start request⟩
      · exact ⟨rfl, rfl, rfl⟩

theorem resting_of_inner?_eq_none
    {call : Call H B}
    (hInner : call.inner? = none) :
    call.Resting := by
  intro c hSome
  rw [hInner] at hSome
  cases hSome

theorem resting_started
    {wrap : Registration.Call H B → Call H B}
    (hWrap : wrap = changing ∨ wrap = clearing)
    (request : Request H) :
    (wrap (.start request)).Resting := by
  intro c hInner
  rcases hWrap with rfl | rfl
  · cases hInner
    exact Or.inl ⟨request, rfl⟩
  · cases hInner
    exact Or.inl ⟨request, rfl⟩

theorem resting_returned
    {wrap : Registration.Call H B → Call H B}
    (hWrap : wrap = changing ∨ wrap = clearing)
    (result : Except Fault Unit) :
    (wrap (.done result)).Resting := by
  intro c hInner
  rcases hWrap with rfl | rfl
  · cases hInner
    exact Or.inr ⟨result, rfl⟩
  · cases hInner
    exact Or.inr ⟨result, rfl⟩

theorem resting_asking
    (request : Request H) :
    (asking request : Call H B).Resting := by
  apply resting_of_inner?_eq_none
  cases request with
  | subscribe key handler => rfl
  | unsubscribe key => rfl
  | clear => rfl

/- A call that was just made was not let in yet. -/
theorem incoming?_asking
    (request : Request H) :
    (asking request : Call H B).incoming? = none := by
  cases request with
  | subscribe key handler => rfl
  | unsubscribe key => rfl
  | clear => rfl

section Goes

variable [DecidableEq H]
variable {closed closed' : Bool}
variable {r r' : Registry H B}
variable {call call' : Call H B}
variable {happening : Option (Happening H B)}

/-
  A step is a step of a call on the registry, or it leaves
  the registry alone.  Then no binding is in hand and no handler
  is due, and nothing at all is in hand after it.
-/
theorem Goes.within_or_apart
    (hGoes : call.Goes closed r happening call' closed' r') :
    (∃ inner inner',
      call.inner? = some inner ∧ call'.inner? = some inner' ∧
        inner.Goes r happening inner' r') ∨
    (happening = none ∧ r' = r ∧ call.owned = 0 ∧ call.due = 0 ∧
      call'.Resting) := by
  have hNone :
      ∀ {call : Call H B}, call.inner? = none → call.Resting :=
    resting_of_inner?_eq_none
  have hApart :
      ∀ {call call' : Call H B}, call.Resting → call'.Resting →
        call.owned = 0 ∧ call.due = 0 ∧ call'.Resting := by
    intro call call' hBefore hAfter
    rcases hBefore.emptyHanded with ⟨hOwned, hDue, -⟩
    exact ⟨hOwned, hDue, hAfter⟩
  cases hGoes with
  | changes hInner => exact Or.inl ⟨_, _, rfl, rfl, hInner⟩
  | clears hInner => exact Or.inl ⟨_, _, rfl, rfl, hInner⟩
  | broke hInner =>
      refine Or.inr ⟨rfl, rfl, ?_, ?_, hNone rfl⟩
      · rw [owned_eq hInner]
        rfl
      · rw [due_eq hInner]
        rfl
  | refused request hClosed =>
      exact Or.inr ⟨rfl, rfl, hApart (hNone rfl) (hNone rfl)⟩
  | entered request hOpen =>
      have hAfter := resting_started (B := B) (Or.inl rfl) request
      exact Or.inr ⟨rfl, rfl, hApart (hNone rfl) hAfter⟩
  | changed result =>
      have hBefore := resting_returned (H := H) (B := B) (Or.inl rfl) result
      exact Or.inr ⟨rfl, rfl, hApart hBefore (hNone rfl)⟩
  | again hClosed =>
      exact Or.inr ⟨rfl, rfl, hApart (hNone rfl) (hNone rfl)⟩
  | marked hOpen =>
      have hAfter :=
        resting_started (H := H) (B := B) (Or.inr rfl) .clear
      exact Or.inr ⟨rfl, rfl, hApart (hNone rfl) hAfter⟩
  | cleared =>
      have hBefore :=
        resting_returned (H := H) (B := B) (Or.inr rfl) (.ok ())
      exact Or.inr ⟨rfl, rfl, hApart hBefore (hNone rfl)⟩
  | failed fault =>
      have hBefore :=
        resting_returned (H := H) (B := B) (Or.inr rfl) (.error fault)
      exact Or.inr ⟨rfl, rfl, hApart hBefore (hNone rfl)⟩
  | disconnected result =>
      exact Or.inr ⟨rfl, rfl, hApart (hNone rfl) (hNone rfl)⟩
  | returned result =>
      exact Or.inr ⟨rfl, rfl, hApart (hNone rfl) (hNone rfl)⟩

/-
  A binding comes to a call or the table only by being made,
  and goes only by being given up.
-/
theorem owned_goes
    (hGoes : call.Goes closed r happening call' closed' r') :
    call'.owned + r'.bindings +
        ((happening.bind Happening.unbound?).toList : Multiset B) =
      call.owned + r.bindings +
        ((happening.bind Happening.bound?).toList : Multiset B) := by
  rcases hGoes.within_or_apart with
    ⟨inner, inner', hBefore, hAfter, hInner⟩ |
    ⟨rfl, rfl, hOwned, -, hAfter⟩
  · rw [owned_eq hBefore, owned_eq hAfter]
    exact Registration.Call.owned_goes hInner
  · rw [hOwned, hAfter.emptyHanded.1]
    rfl

/-
  A step makes a handler due by making a binding for it, and
  lets no other handler go than it cancels, or than was
  cancelled in advance.
-/
theorem due_goes
    (hGoes : call.Goes closed r happening call' closed' r')
    (hUsable : r.poisoned = false) :
    ((happening.bind Happening.served?).toList : Multiset H) +
        (r.handlers + call.due + call'.advanced) ≤
      ((happening.bind Happening.cancelled?).toList : Multiset H) +
        (r'.handlers + call'.due + call.advanced) := by
  rcases hGoes.within_or_apart with
    ⟨inner, inner', hBefore, hAfter, hInner⟩ |
    ⟨rfl, rfl, -, hDue, hAfter⟩
  · rw [due_eq hBefore, due_eq hAfter, advanced_eq hBefore,
      advanced_eq hAfter]
    exact Registration.Call.due_goes hInner hUsable
  -- A call that breaks off may have cancelled a handler for nothing.
  · rcases hAfter.emptyHanded with ⟨-, hDue', hAdvanced'⟩
    rw [hDue, hDue', hAdvanced', add_zero, add_zero]
    exact add_le_add_right (Multiset.le_add_right _ _) _

/- What a step puts in the table, its call was let in to put in. -/
theorem get?_goes
    (hGoes : call.Goes closed r happening call' closed' r')
    {key : Key}
    {v : Subscription H B}
    (hFound : r'.table.get? key = some v) :
    r.table.get? key = some v ∨
      call.incoming? = some (key, v.handler) := by
  rcases hGoes.within_or_apart with
    ⟨inner, inner', hBefore, hAfter, hInner⟩ | ⟨-, rfl, -⟩
  · rw [incoming?_eq hBefore]
    rcases Registration.Call.get?_goes hInner hFound with
      hOld | hUnplaced
    · exact Or.inl hOld
    · exact Or.inr (Registration.Call.incoming?_of_unplaced? hUnplaced)
  · exact Or.inl hFound

/- A lock that is not poisoned was not before the step. -/
theorem usable_goes
    (hGoes : call.Goes closed r happening call' closed' r')
    (hUsable : r'.poisoned = false) :
    r.poisoned = false := by
  rcases hGoes.within_or_apart with
    ⟨inner, inner', -, -, hInner⟩ | ⟨-, rfl, -⟩
  · cases hInner with
    | access a =>
        exact (Registration.Call.poisoned_access a r).symm.trans hUsable
    | cancel handler next outcome => exact hUsable
    | bind key handler old outcome => exact hUsable
    | unbind b next outcome => exact hUsable
  · exact hUsable

/- A closed client lets no call in with a handler to put in. -/
theorem incoming?_goes
    (hGoes : call.Goes true r happening call' closed' r')
    {key : Key}
    {handler : H}
    (hIncoming : call'.incoming? = some (key, handler)) :
    call.incoming? = some (key, handler) := by
  cases hGoes with
  | changes hInner =>
      exact Registration.Call.incoming?_goes hInner hIncoming
  | clears hInner =>
      exact Registration.Call.incoming?_goes hInner hIncoming
  | broke hInner => cases hIncoming
  | entered request hOpen => cases hOpen
  | marked hOpen => cases hOpen
  | refused request hClosed => cases hIncoming
  | changed result => cases hIncoming
  | again hClosed => cases hIncoming
  | cleared => cases hIncoming
  | failed fault => cases hIncoming
  | disconnected result => cases hIncoming
  | returned result => cases hIncoming

/- A client that is closed stays so. -/
theorem closed_goes
    (hGoes : call.Goes true r happening call' closed' r') :
    closed' = true := by
  cases hGoes with
  | changes hInner => rfl
  | clears hInner => rfl
  | broke hInner => rfl
  | refused request hClosed => rfl
  | entered request hOpen => rfl
  | changed result => rfl
  | again hClosed => rfl
  | marked hOpen => rfl
  | cleared => rfl
  | failed fault => rfl
  | disconnected result => rfl
  | returned result => rfl

end Goes

end Call

------------------------------------------------------------
-- Traffic
------------------------------------------------------------

/- A client, with all that was seen on it so far. -/
structure Traffic (H B τ ω : Type) where
  client : Client H B τ ω
  /- What the calls asked for, and where they stand. -/
  calls : List (Request H × Call H B)
  /- The callbacks that came to an end, with the numbers of their calls. -/
  log : List (Nat × Happening H B)

namespace Traffic

/- A client that nobody has used yet. -/
def start
    (root : String)
    (transport : τ)
    (world : ω) : Traffic H B τ ω where
  client := .create root transport world
  calls := []
  log := []

/- The bindings that were made, oldest first. -/
def bound
    (s : Traffic H B τ ω) : List B :=
  s.log.filterMap (·.2.bound?)

/- The bindings that were given up, oldest first. -/
def unbound
    (s : Traffic H B τ ω) : List B :=
  s.log.filterMap (·.2.unbound?)

/- The handlers that bindings were made for, once for each. -/
def served
    (s : Traffic H B τ ω) : List H :=
  s.log.filterMap (·.2.served?)

/- The handlers that were cancelled, once for each time. -/
def cancelled
    (s : Traffic H B τ ω) : List H :=
  s.log.filterMap (·.2.cancelled?)

/- What may happen next. -/
inductive Step
    [DecidableEq H]
    (t : Transport H B τ)
    (handlers : Handlers H ω)
    (s : Traffic H B τ ω) : Traffic H B τ ω → Prop where
  /- Somebody makes a call, be it from within a callback. -/
  | ask
      (request : Request H) :
      Step t handlers s
        { s with calls := s.calls ++ [(request, .asking request)] }
  /- A call takes its next step. -/
  | advance
      (i : Nat)
      {request : Request H}
      {call call' : Call H B}
      {client' : Client H B τ ω}
      (hAt : s.calls[i]? = some (request, call))
      (hStep : call.step t handlers s.client = (call', client')) :
      Step t handlers s
        { client := client'
          calls := s.calls.set i (request, call')
          log :=
            s.log ++
              (call.happening? t handlers s.client).toList.map (i, ·) }
  /- The transport and the world of the handlers change by themselves. -/
  | act
      {state : Endpoint τ ω}
      (hMark : state.closed = s.client.state.closed) :
      Step t handlers s
        { s with client := { s.client with state := state } }
  /- The lock on the table is left poisoned. -/
  | poison :
      Step t handlers s
        { s with
          client := { s.client with registry := s.client.registry.poison } }
  /- The table is read in another order from now on. -/
  | reorder
      {r : Registry H B}
      (hReordered : s.client.registry.Reordered r) :
      Step t handlers s { s with client := { s.client with registry := r } }

/- A call is made, or takes its next step. -/
inductive Move (H : Type) where
  | ask (request : Request H)
  | advance (i : Nat)

/- What comes of a move. -/
def move
    [DecidableEq H]
    (t : Transport H B τ)
    (handlers : Handlers H ω)
    (s : Traffic H B τ ω) : Move H → Traffic H B τ ω
  | .ask request =>
      { s with calls := s.calls ++ [(request, .asking request)] }
  | .advance i =>
      match s.calls[i]? with
      | none => s
      | some (request, call) =>
          { client := (call.step t handlers s.client).2
            calls :=
              s.calls.set i (request, (call.step t handlers s.client).1)
            log :=
              s.log ++
                (call.happening? t handlers s.client).toList.map (i, ·) }

/- What can come after a number of steps. -/
inductive Reachable
    [DecidableEq H]
    (t : Transport H B τ)
    (handlers : Handlers H ω)
    (first : Traffic H B τ ω) : Traffic H B τ ω → Prop where
  | start : Reachable t handlers first first
  | step
      {s s' : Traffic H B τ ω}
      (hEarlier : Reachable t handlers first s)
      (hStep : Step t handlers s s') :
      Reachable t handlers first s'

------------------------------------------------------------
-- Bindings and handlers
------------------------------------------------------------

/-
  Each binding that was made is in the table, or in the hands
  of a call, or was given up.
-/
def Conserved
    (s : Traffic H B τ ω) : Prop :=
  s.client.registry.bindings + (s.calls.map (·.2.owned)).sum + s.unbound =
    (s.bound : Multiset B)

/-
  Each handler was cancelled for each binding that was made
  for it, or it is in the table, or a call is to put it in or
  to cancel it.
-/
def Covered
    (s : Traffic H B τ ω) : Prop :=
  s.served + (s.calls.map (·.2.advanced)).sum ≤
    s.cancelled +
      (s.client.registry.handlers + (s.calls.map (·.2.due)).sum)

theorem conserved_start
    (root : String)
    (transport : τ)
    (world : ω) :
    Conserved (start root transport world : Traffic H B τ ω) :=
  rfl

theorem covered_start
    (root : String)
    (transport : τ)
    (world : ω) :
    Covered (start root transport world : Traffic H B τ ω) :=
  le_rfl

/- What a log tells of some kind, after one more callback. -/
theorem filterMap_log
    {α : Type}
    (part : Happening H B → Option α)
    (log : List (Nat × Happening H B))
    (i : Nat)
    (happening : Option (Happening H B)) :
    (log ++ happening.toList.map (i, ·)).filterMap (part ·.2) =
      log.filterMap (part ·.2) ++ (happening.bind part).toList := by
  rw [List.filterMap_append]
  rcases happening with _ | happening
  · rfl
  · cases h : part happening <;> simp [h]

section Steps

variable [DecidableEq H]
variable {t : Transport H B τ}
variable {handlers : Handlers H ω}
variable {s s' : Traffic H B τ ω}

theorem Reachable.trans
    {first : Traffic H B τ ω}
    (hEarlier : Reachable t handlers first s)
    (hLater : Reachable t handlers s s') :
    Reachable t handlers first s' := by
  induction hLater with
  | start => exact hEarlier
  | step _ hStep ih => exact ih.step hStep

theorem reachable_move
    (t : Transport H B τ)
    (handlers : Handlers H ω)
    (s : Traffic H B τ ω)
    (m : Move H) :
    Reachable t handlers s (s.move t handlers m) := by
  have hStart : Reachable t handlers s s := .start
  cases m with
  | ask request => exact hStart.step (.ask request)
  | advance i =>
      cases hAt : s.calls[i]? with
      | none =>
          simp only [move, hAt]
          exact hStart
      | some c =>
          simp only [move, hAt]
          exact hStart.step (.advance i hAt rfl)

/- Calls may be made and take their steps in a given order. -/
theorem reachable_moves
    (t : Transport H B τ)
    (handlers : Handlers H ω)
    (moves : List (Move H))
    (s : Traffic H B τ ω) :
    Reachable t handlers s (moves.foldl (move t handlers) s) := by
  induction moves generalizing s with
  | nil => exact .start
  | cons first rest ih =>
      exact (reachable_move t handlers s first).trans (ih _)

/- A lock that is not poisoned never was. -/
theorem Step.usable
    (hStep : Step t handlers s s')
    (hUsable : s'.client.registry.poisoned = false) :
    s.client.registry.poisoned = false := by
  cases hStep with
  | ask request => exact hUsable
  | advance i hAt hStep =>
      exact Call.usable_goes (Call.goes_of_step hStep) hUsable
  | act hMark => exact hUsable
  | poison => cases hUsable
  | reorder hReordered => exact hReordered.2.trans hUsable

theorem Conserved.step
    (hConserved : s.Conserved)
    (hStep : Step t handlers s s') :
    s'.Conserved := by
  cases hStep with
  | ask request =>
      unfold Conserved bound unbound
      rw [List.map_append, List.sum_append, List.map_singleton,
        List.sum_singleton, Call.owned_asking, add_zero]
      exact hConserved
  | advance i hAt hStep =>
      unfold Conserved bound unbound
      rw [filterMap_log, filterMap_log, ← Multiset.coe_add,
        ← Multiset.coe_add]
      exact
        Pool.balanced_set (fun c : Request H × Call H B => c.2.owned) hAt
          (Call.owned_goes (Call.goes_of_step hStep)) hConserved
  | act hMark => exact hConserved
  | poison => exact hConserved
  | reorder hReordered =>
      unfold Conserved
      rw [bindings_eq_of_reordered hReordered]
      exact hConserved

theorem Covered.step
    (hCovered : s.Covered)
    (hStep : Step t handlers s s')
    (hUsable : s.client.registry.poisoned = false) :
    s'.Covered := by
  cases hStep with
  | ask request =>
      rcases (Call.resting_asking (B := B) request).emptyHanded with
        ⟨-, hDue, hAdvanced⟩
      unfold Covered
      rw [List.map_append, List.map_append, List.sum_append,
        List.sum_append, List.map_singleton, List.map_singleton,
        List.sum_singleton, List.sum_singleton, hDue, hAdvanced,
        add_zero, add_zero]
      exact hCovered
  | advance i hAt hStep =>
      unfold Covered served cancelled
      rw [filterMap_log, filterMap_log, ← Multiset.coe_add,
        ← Multiset.coe_add]
      exact
        Pool.covered_set
          (fun c : Request H × Call H B => c.2.due)
          (fun c : Request H × Call H B => c.2.advanced) hAt
          (Call.due_goes (Call.goes_of_step hStep) hUsable) hCovered
  | act hMark => exact hCovered
  | poison => exact hCovered
  | reorder hReordered =>
      have hSame : Registry.handlers _ = s.client.registry.handlers :=
        parts_eq_of_reordered (·.handler) hReordered
      unfold Covered
      rw [hSame]
      exact hCovered

theorem Reachable.conserved
    {first : Traffic H B τ ω}
    (hReachable : Reachable t handlers first s)
    (hConserved : first.Conserved) :
    s.Conserved := by
  induction hReachable with
  | start => exact hConserved
  | step _ hStep ih => exact ih.step hStep

theorem Reachable.covered
    {first : Traffic H B τ ω}
    (hReachable : Reachable t handlers first s)
    (hCovered : first.Covered)
    (hUsable : s.client.registry.poisoned = false) :
    s.Covered := by
  induction hReachable with
  | start => exact hCovered
  | step _ hStep ih =>
      have hUsable' := hStep.usable hUsable
      exact (ih hUsable').step hStep hUsable'

end Steps

------------------------------------------------------------
-- Calls that have nothing in hand
------------------------------------------------------------

/- No call has a call on the registry that is in progress. -/
def Resting
    (s : Traffic H B τ ω) : Prop :=
  ∀ c ∈ s.calls, c.2.Resting

/- A sum over calls that have nothing is nothing. -/
theorem Resting.sum_eq_zero
    {M : Type}
    {s : Traffic H B τ ω}
    (hResting : s.Resting)
    (held : Call H B → Multiset M)
    (hNothing : ∀ {call : Call H B}, call.Resting → held call = 0) :
    (s.calls.map fun c => held c.2).sum = 0 := by
  apply List.sum_eq_zero
  intro x hMember
  rcases List.mem_map.mp hMember with ⟨c, hCall, rfl⟩
  exact hNothing (hResting c hCall)

/- Each binding that was made is in the table, or was given up. -/
theorem Conserved.of_resting
    {s : Traffic H B τ ω}
    (hConserved : s.Conserved)
    (hResting : s.Resting) :
    s.client.registry.bindings + s.unbound = (s.bound : Multiset B) := by
  have hNothing :=
    hResting.sum_eq_zero Call.owned (·.emptyHanded.1)
  unfold Conserved at hConserved
  rw [hNothing, add_zero] at hConserved
  exact hConserved

/-
  Each handler was cancelled for each binding that was made
  for it and is no longer in the table.
-/
theorem Covered.of_resting
    {s : Traffic H B τ ω}
    (hCovered : s.Covered)
    (hResting : s.Resting) :
    (s.served : Multiset H) ≤ s.cancelled + s.client.registry.handlers := by
  have hNothing :=
    hResting.sum_eq_zero Call.due (·.emptyHanded.2.1)
  have hNobody :=
    hResting.sum_eq_zero Call.advanced (·.emptyHanded.2.2)
  unfold Covered at hCovered
  rw [hNothing, hNobody, add_zero, add_zero] at hCovered
  exact hCovered

end Traffic

end Courier.Client
