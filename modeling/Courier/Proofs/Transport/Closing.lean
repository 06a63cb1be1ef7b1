import Courier.Proofs.Transport.Traffic
import Courier.Transport.LocalBroker

/-
  What closing a client comes to, in whatever order calls take
  their steps, on any transport.

  A call that closes the client marks it first, and takes all
  subscriptions out of the table later.  A call that subscribes
  a handler looks at the mark first, and puts the handler in
  later.  So a handler may be put in after the table was
  emptied, by a call that had been let in before.  Nobody takes
  such a handler out again: closing once more does nothing, and
  a closed client refuses to unsubscribe.

  Nothing else is left in the table.  Where no call is under
  way with a handler when the table is about to be emptied,
  closing is final.

  Key definitions include:
    * `Client.Traffic.Admitted`
    * `Client.Traffic.EmptiedBy`
    * `Client.Traffic.Shutting`, `Client.Traffic.ShutOut`

  Main statements:
    * `Client.Traffic.Marked.step`, `Client.Traffic.Shutting.step`
    * `Client.Traffic.exists_emptiedBy`
    * `Client.Traffic.ShutOut.step`
    * `Client.Traffic.closed_for_good`
-/

namespace Courier.Client

open Registration

variable {H B τ ω : Type}

/- What a closed client answers. -/
def refusal : Request H → Except Fault Unit
  | .clear => .ok ()
  | _ => .error .closed

------------------------------------------------------------
-- Steps of a call
------------------------------------------------------------

namespace Call

variable [DecidableEq H]
variable {closed closed' : Bool}
variable {r r' : Registry H B}
variable {call call' : Call H B}
variable {happening : Option (Happening H B)}

/- A client is marked once a call to close it has begun. -/
theorem marking_goes
    (hGoes :
      (closing : Call H B).Goes closed r happening call' closed' r') :
    closed' = true := by
  cases hGoes with
  | again hClosed => exact hClosed
  | marked hOpen => rfl
  | broke hInner => cases hInner

/- The call that marks a client goes on to empty the table. -/
theorem marked_goes
    (hGoes : call.Goes false r happening call' true r') :
    call' = clearing (.start .clear) := by
  cases hGoes with
  | marked hOpen => rfl

/- A closed client refuses each call that was just made. -/
theorem refused_goes
    {request : Request H}
    (hOutside : call = asking request ∨ call = done (refusal request))
    (hGoes : call.Goes true r happening call' closed' r') :
    happening = none ∧ call' = done (refusal request) := by
  rcases hOutside with rfl | rfl
  · cases request with
    | subscribe key handler =>
        cases hGoes with
        | refused request hClosed => exact ⟨rfl, rfl⟩
        | entered request hOpen => cases hOpen
        | broke hInner => cases hInner
    | unsubscribe key =>
        cases hGoes with
        | refused request hClosed => exact ⟨rfl, rfl⟩
        | entered request hOpen => cases hOpen
        | broke hInner => cases hInner
    | clear =>
        cases hGoes with
        | again hClosed => exact ⟨rfl, rfl⟩
        | marked hOpen => cases hOpen
        | broke hInner => cases hInner
  · cases hGoes with
    | returned result => exact ⟨rfl, rfl⟩
    | broke hInner => cases hInner

/- The table is empty after the call that empties it took its step. -/
theorem emptied_goes
    (hGoes :
      (clearing (.start .clear) : Call H B).Goes closed r happening
        call' closed' r')
    (hUsable : r.poisoned = false) :
    r'.table = .empty := by
  cases hGoes with
  | clears hInner =>
      cases hInner with
      | access a => simp [Registration.Call.access, hUsable]
  | broke hInner => cases hInner

end Call

------------------------------------------------------------
-- The mark
------------------------------------------------------------

namespace Traffic

/-
  A call that was let in has a handler yet to put in under a
  key.
-/
def Admitted
    (s : Traffic H B τ ω)
    (key : Key)
    (handler : H) : Prop :=
  ∃ c ∈ s.calls, c.2.incoming? = some (key, handler)

/-
  The client is marked as closed, and a call is about to take
  all subscriptions out of the table.
-/
def EmptiedBy
    (s : Traffic H B τ ω)
    (k : Nat) : Prop :=
  s.client.state.closed = true ∧
    ∃ request, s.calls[k]? = some (request, .clearing (.start .clear))

/- Calls that close a client begin by marking it. -/
def Marked
    (s : Traffic H B τ ω) : Prop :=
  ∀ c ∈ s.calls, c.1 = .clear →
    c.2 = .closing ∨ s.client.state.closed = true

/-
  What holds of a client from the time when its table is about
  to be emptied.
-/
structure Shutting
    (before : Traffic H B τ ω)
    (k : Nat)
    (s : Traffic H B τ ω) : Prop where
  closed : s.client.state.closed = true
  /- No more handlers come. -/
  admitted :
    ∀ {key handler}, s.Admitted key handler → before.Admitted key handler
  /- What is in the table once it was emptied, came after that. -/
  emptied :
    s.EmptiedBy k ∨
      ∀ {key v}, s.client.registry.table.get? key = some v →
        before.Admitted key v.handler

/- What holds of the calls that are made on a closed client. -/
structure ShutOut
    (n : Nat)
    (s : Traffic H B τ ω) : Prop where
  closed : s.client.state.closed = true
  /- They are refused. -/
  refused :
    ∀ {j : Nat} {request call},
      n ≤ j → s.calls[j]? = some (request, call) →
      call = .asking request ∨ call = .done (refusal request)
  /- No callback runs for them. -/
  silent : ∀ x ∈ s.log, x.1 < n

/- The table holds no other handlers once the call has returned. -/
theorem Shutting.admitted_of_done
    {before s : Traffic H B τ ω}
    {k : Nat}
    (hShutting : Shutting before k s)
    {request : Request H}
    {result : Except Fault Unit}
    (hDone : s.calls[k]? = some (request, .done result))
    {key : Key}
    {v : Subscription H B}
    (hFound : s.client.registry.table.get? key = some v) :
    before.Admitted key v.handler := by
  rcases hShutting.emptied with ⟨-, other, hAt⟩ | hTable
  · rw [hAt] at hDone
    cases hDone
  · exact hTable hFound

/- Nothing is in progress once all earlier calls have returned. -/
theorem ShutOut.resting
    {n : Nat}
    {s : Traffic H B τ ω}
    (hShutOut : ShutOut n s)
    (hEarlier :
      ∀ j < n, ∃ request result, s.calls[j]? = some (request, .done result)) :
    s.Resting := by
  intro c hMember
  rcases List.mem_iff_getElem?.mp hMember with ⟨j, hAt⟩
  by_cases hEarly : j < n
  · rcases hEarlier j hEarly with ⟨request, result, hDone⟩
    rw [hAt] at hDone
    cases hDone
    exact Call.resting_of_inner?_eq_none rfl
  · rcases hShutOut.refused (not_lt.mp hEarly) hAt with hAsked | hDone
    · rw [hAsked]
      exact Call.resting_asking c.1
    · rw [hDone]
      exact Call.resting_of_inner?_eq_none rfl

section Steps

variable [DecidableEq H]
variable {t : Transport H B τ}
variable {handlers : Handlers H ω}
variable {s s' : Traffic H B τ ω}

theorem Step.closed
    (hStep : Step t handlers s s')
    (hClosed : s.client.state.closed = true) :
    s'.client.state.closed = true := by
  cases hStep with
  | ask request => exact hClosed
  | advance i hAt hStep =>
      have hGoes := Call.goes_of_step hStep
      rw [hClosed] at hGoes
      exact Call.closed_goes hGoes
  | act hMark => exact hMark.trans hClosed
  | poison => exact hClosed
  | reorder hReordered => exact hClosed

theorem Step.length_le
    (hStep : Step t handlers s s') :
    s.calls.length ≤ s'.calls.length := by
  cases hStep with
  | ask request => simp
  | advance i hAt hStep => simp
  | act hMark => exact le_rfl
  | poison => exact le_rfl
  | reorder hReordered => exact le_rfl

theorem Reachable.length_le
    (hLater : Reachable t handlers s s') :
    s.calls.length ≤ s'.calls.length := by
  induction hLater with
  | start => exact le_rfl
  | step _ hStep ih => exact ih.trans hStep.length_le

/- Calls that close a client have marked it before they return. -/
theorem Marked.step
    (hMarked : s.Marked)
    (hStep : Step t handlers s s') :
    s'.Marked := by
  intro c hMember hClear
  by_cases hClosed : s.client.state.closed = true
  · exact Or.inr (hStep.closed hClosed)
  · have hBefore : ∀ c ∈ s.calls, c.1 = .clear → c.2 = .closing := by
      intro c hMember hClear
      exact (hMarked c hMember hClear).resolve_right hClosed
    cases hStep with
    | ask request =>
        rcases List.mem_append.mp hMember with hOld | hNew
        · exact Or.inl (hBefore c hOld hClear)
        · left
          cases List.mem_singleton.mp hNew
          cases hClear
          rfl
    | @advance i request call call' client' hAt hStep =>
        rcases List.mem_or_eq_of_mem_set hMember with hOld | hSelf
        · exact Or.inl (hBefore c hOld hClear)
        · subst hSelf
          cases hClear
          have hClosing :=
            hBefore _ (List.mem_of_getElem? hAt) rfl
          dsimp only at hClosing
          subst hClosing
          have hGoes := Call.goes_of_step hStep
          right
          exact Call.marking_goes hGoes
    | act hMark => exact Or.inl (hBefore c hMember hClear)
    | poison => exact Or.inl (hBefore c hMember hClear)
    | reorder hReordered => exact Or.inl (hBefore c hMember hClear)

theorem Reachable.marked
    {first : Traffic H B τ ω}
    (hReachable : Reachable t handlers first s)
    (hMarked : first.Marked) :
    s.Marked := by
  induction hReachable with
  | start => exact hMarked
  | step _ hStep ih => exact ih.step hStep

/- A client that was closed is one whose table was to be emptied. -/
theorem exists_emptiedBy
    {first : Traffic H B τ ω}
    (hReachable : Reachable t handlers first s)
    (hOpen : first.client.state.closed = false)
    (hClosed : s.client.state.closed = true) :
    ∃ before k,
      Reachable t handlers first before ∧
      Reachable t handlers before s ∧ before.EmptiedBy k := by
  induction hReachable with
  | start => cases hOpen.symm.trans hClosed
  | @step s s' hEarlier hStep ih =>
      cases hBefore : s.client.state.closed with
      | true =>
          rcases ih hBefore with ⟨before, k, hFirst, hRest, hEmptied⟩
          exact ⟨before, k, hFirst, hRest.step hStep, hEmptied⟩
      | false =>
          refine ⟨s', ?_⟩
          have hThere := hEarlier.step hStep
          cases hStep with
          | ask request => cases hBefore.symm.trans hClosed
          | @advance i request call call' client' hAt hStep =>
              have hGoes := Call.goes_of_step hStep
              rw [hBefore, hClosed] at hGoes
              have hEmptying := Call.marked_goes hGoes
              subst hEmptying
              have hLength := (List.getElem?_eq_some_iff.mp hAt).1
              exact
                ⟨i, hThere, .start, hClosed, request,
                  List.getElem?_set_self hLength⟩
          | act hMark => cases (hMark.trans hBefore).symm.trans hClosed
          | poison => cases hBefore.symm.trans hClosed
          | reorder hReordered => cases hBefore.symm.trans hClosed

/- A step of a call puts no more in, and may empty the table. -/
theorem Shutting.advance
    {before : Traffic H B τ ω}
    {k : Nat}
    (hShutting : Shutting before k s)
    {i : Nat}
    {request : Request H}
    {call call' : Call H B}
    {client' : Client H B τ ω}
    (hAt : s.calls[i]? = some (request, call))
    (hStep : call.step t handlers s.client = (call', client'))
    (hClosed : client'.state.closed = true)
    (hUsable : s.client.registry.poisoned = false)
    (log : List (Nat × Happening H B)) :
    Shutting before k
      { client := client'
        calls := s.calls.set i (request, call')
        log := log } := by
  have hCall := List.mem_of_getElem? hAt
  have hGoes := Call.goes_of_step hStep
  rw [hShutting.closed] at hGoes
  refine ⟨hClosed, ?_, ?_⟩
  · rintro key handler ⟨c, hMember, hIncoming⟩
    rcases List.mem_or_eq_of_mem_set hMember with hOld | hSelf
    · exact hShutting.admitted ⟨c, hOld, hIncoming⟩
    · subst hSelf
      exact hShutting.admitted
        ⟨_, hCall, Call.incoming?_goes hGoes hIncoming⟩
  · rcases hShutting.emptied with ⟨-, other, hAt'⟩ | hTable
    · by_cases hSame : i = k
      · -- The table is emptied by this step.
        subst hSame
        rw [hAt] at hAt'
        cases hAt'
        have hEmpty := Call.emptied_goes hGoes hUsable
        right
        intro key v hFound
        rw [hEmpty] at hFound
        cases hFound
      · exact Or.inl
          ⟨hClosed, other, (List.getElem?_set_ne hSame).trans hAt'⟩
    · right
      intro key v hFound
      rcases Call.get?_goes hGoes hFound with hOld | hIncoming
      · exact hTable hOld
      · exact hShutting.admitted ⟨_, hCall, hIncoming⟩

/- What may be in the table is known after each step. -/
theorem Shutting.step
    {before : Traffic H B τ ω}
    {k : Nat}
    (hShutting : Shutting before k s)
    (hStep : Step t handlers s s')
    (hUsable : s.client.registry.poisoned = false) :
    Shutting before k s' := by
  have hClosed := hStep.closed hShutting.closed
  cases hStep with
  | ask request =>
      refine ⟨hClosed, ?_, ?_⟩
      · rintro key handler ⟨c, hMember, hIncoming⟩
        rcases List.mem_append.mp hMember with hOld | hNew
        · exact hShutting.admitted ⟨c, hOld, hIncoming⟩
        · rw [List.mem_singleton.mp hNew, Call.incoming?_asking] at hIncoming
          cases hIncoming
      · rcases hShutting.emptied with ⟨-, other, hAt⟩ | hTable
        · have hLength := (List.getElem?_eq_some_iff.mp hAt).1
          exact Or.inl
            ⟨hClosed, other,
              (List.getElem?_append_left hLength).trans hAt⟩
        · exact Or.inr hTable
  | advance i hAt hStep =>
      exact hShutting.advance hAt hStep hClosed hUsable _
  | act hMark =>
      refine ⟨hClosed, hShutting.admitted, ?_⟩
      rcases hShutting.emptied with ⟨-, hAt⟩ | hTable
      · exact Or.inl ⟨hClosed, hAt⟩
      · exact Or.inr hTable
  | poison =>
      exact ⟨hClosed, hShutting.admitted, hShutting.emptied⟩
  | reorder hReordered =>
      refine ⟨hClosed, hShutting.admitted, ?_⟩
      rcases hShutting.emptied with ⟨-, hAt⟩ | hTable
      · exact Or.inl ⟨hClosed, hAt⟩
      · right
        intro key v hFound
        rw [Table.get?_eq_of_reordered hReordered.1] at hFound
        exact hTable hFound

theorem Reachable.shutting
    {before : Traffic H B τ ω}
    {k : Nat}
    (hEmptied : before.EmptiedBy k)
    (hReachable : Reachable t handlers before s)
    (hUsable : s.client.registry.poisoned = false) :
    Shutting before k s := by
  induction hReachable with
  | start => exact ⟨hEmptied.1, id, Or.inl hEmptied⟩
  | step _ hStep ih =>
      have hUsable' := hStep.usable hUsable
      exact (ih hUsable').step hStep hUsable'

------------------------------------------------------------
-- Calls on a closed client
------------------------------------------------------------

/- The log has no more calls than there are. -/
theorem log_lt_step
    (hLog : ∀ x ∈ s.log, x.1 < s.calls.length)
    (hStep : Step t handlers s s') :
    ∀ x ∈ s'.log, x.1 < s'.calls.length := by
  intro x hMember
  cases hStep with
  | ask request =>
      have hOld := hLog x hMember
      rw [List.length_append]
      omega
  | @advance i request call call' client' hAt hStep =>
      have hLength := (List.getElem?_eq_some_iff.mp hAt).1
      rw [List.length_set]
      rcases List.mem_append.mp hMember with hOld | hNow
      · exact hLog x hOld
      · rcases List.mem_map.mp hNow with ⟨happening, -, rfl⟩
        exact hLength
  | act hMark => exact hLog x hMember
  | poison => exact hLog x hMember
  | reorder hReordered => exact hLog x hMember

theorem Reachable.log_lt
    {first : Traffic H B τ ω}
    (hReachable : Reachable t handlers first s)
    (hLog : ∀ x ∈ first.log, x.1 < first.calls.length) :
    ∀ x ∈ s.log, x.1 < s.calls.length := by
  induction hReachable with
  | start => exact hLog
  | step _ hStep ih => exact log_lt_step ih hStep

/- Calls on a closed client are refused, whatever happens. -/
theorem ShutOut.step
    {n : Nat}
    (hShutOut : ShutOut n s)
    (hStep : Step t handlers s s') :
    ShutOut n s' := by
  have hClosed := hStep.closed hShutOut.closed
  cases hStep with
  | ask request =>
      refine ⟨hClosed, ?_, hShutOut.silent⟩
      intro j request' call hLate hAt
      rcases Pool.joined_cases hAt with hOld | ⟨-, hNew⟩
      · exact hShutOut.refused hLate hOld
      · cases hNew
        exact Or.inl rfl
  | @advance i request call call' client' hAt hStep =>
      have hGoes := Call.goes_of_step hStep
      rw [hShutOut.closed] at hGoes
      refine ⟨hClosed, ?_, ?_⟩
      · intro j request' other hLate hAt'
        rcases Pool.stepped_cases hAt' with ⟨rfl, hSelf⟩ | ⟨-, hOther⟩
        · cases hSelf
          have hOutside := hShutOut.refused hLate hAt
          exact Or.inr (Call.refused_goes hOutside hGoes).2
        · exact hShutOut.refused hLate hOther
      · intro x hMember
        rcases List.mem_append.mp hMember with hOld | hNow
        · exact hShutOut.silent x hOld
        · rcases List.mem_map.mp hNow with ⟨happening, hNow, rfl⟩
          by_contra hLate
          have hOutside := hShutOut.refused (not_lt.mp hLate) hAt
          rw [(Call.refused_goes hOutside hGoes).1] at hNow
          exact absurd hNow List.not_mem_nil
  | act hMark => exact ⟨hClosed, hShutOut.refused, hShutOut.silent⟩
  | poison => exact ⟨hClosed, hShutOut.refused, hShutOut.silent⟩
  | reorder hReordered =>
      exact ⟨hClosed, hShutOut.refused, hShutOut.silent⟩

theorem Reachable.shutOut
    {n : Nat}
    (hLater : Reachable t handlers s s')
    (hShutOut : ShutOut n s) :
    ShutOut n s' := by
  induction hLater with
  | start => exact hShutOut
  | step _ hStep ih => exact ih.step hStep

------------------------------------------------------------
-- Closing for good
------------------------------------------------------------

/-
  In whatever order calls take their steps on a client of any
  transport, however callbacks come out, as long as the lock
  on the table is not left poisoned: once a call that closes
  the client has returned without a fault, and all calls that
  had been made by then have returned,

    * there was a time when the table was about to be emptied,
      and what is in the table now was put in by calls that
      had been let in before then;
    * if there was no such call, the table is empty, each
      binding that was made was given up, and each handler was
      cancelled for each of them;
    * otherwise this holds of all that is not in the table;
    * later calls are refused, and no callback runs for them.
-/
theorem closed_for_good
    {root : String}
    {transport : τ}
    {world : ω}
    {returned : Traffic H B τ ω}
    {i : Nat}
    (hReturned :
      Reachable t handlers (start root transport world) returned)
    (hClose : returned.calls[i]? = some (.clear, .done (.ok ())))
    (hLater : Reachable t handlers returned s)
    (hOverlapping :
      ∀ j < returned.calls.length,
        ∃ request result, s.calls[j]? = some (request, .done result))
    (hUsable : s.client.registry.poisoned = false) :
    (∃ before k,
      Reachable t handlers (start root transport world) before ∧
      Reachable t handlers before returned ∧ before.EmptiedBy k) ∧
    (∀ before k,
      Reachable t handlers before returned →
      before.EmptiedBy k →
      (∀ key v, s.client.registry.table.get? key = some v →
        before.Admitted key v.handler) ∧
      ((∀ key handler, ¬ before.Admitted key handler) →
        s.client.registry.table.entries = [] ∧
        (s.unbound : Multiset B) = s.bound ∧
        (s.served : Multiset H) ≤ s.cancelled)) ∧
    s.client.registry.bindings + s.unbound = (s.bound : Multiset B) ∧
    (s.served : Multiset H) ≤ s.cancelled + s.client.registry.handlers ∧
    (∀ j request call,
      returned.calls.length ≤ j →
      s.calls[j]? = some (request, call) →
      call = .asking request ∨ call = .done (refusal request)) ∧
    ∀ x ∈ s.log, x.1 < returned.calls.length := by
  have hReachable := hReturned.trans hLater
  have hMarked := hReturned.marked fun c hMember =>
    absurd hMember List.not_mem_nil
  have hClosed : returned.client.state.closed = true := by
    rcases hMarked _ (List.mem_of_getElem? hClose) rfl with hOpen | hMark
    · cases hOpen
    · exact hMark
  have hShutOut : ShutOut returned.calls.length s := by
    have hLog := hReturned.log_lt fun x hMember =>
      absurd hMember List.not_mem_nil
    apply hLater.shutOut
    refine ⟨hClosed, ?_, hLog⟩
    intro j request call hLate hAt
    have hLength := (List.getElem?_eq_some_iff.mp hAt).1
    omega
  have hResting := hShutOut.resting hOverlapping
  have hConserved :=
    (hReachable.conserved (conserved_start _ _ _)).of_resting hResting
  have hCovered :=
    (hReachable.covered (covered_start _ _ _) hUsable).of_resting hResting
  refine ⟨?_, ?_, ?_, ?_, ?_, hShutOut.silent⟩
  · exact exists_emptiedBy hReturned rfl hClosed
  · intro before k hRest hEmptied
    have hShutting := (hRest.trans hLater).shutting hEmptied hUsable
    have hThere : k < returned.calls.length := by
      rcases hEmptied.2 with ⟨request, hAt⟩
      have hBefore := (List.getElem?_eq_some_iff.mp hAt).1
      exact hBefore.trans_le hRest.length_le
    rcases hOverlapping k hThere with ⟨request, result, hDone⟩
    have hTable :
        ∀ key v, s.client.registry.table.get? key = some v →
          before.Admitted key v.handler :=
      fun key v hFound => hShutting.admitted_of_done hDone hFound
    refine ⟨hTable, ?_⟩
    intro hNobody
    have hEmpty : s.client.registry.table.entries = [] := by
      apply List.eq_nil_iff_forall_not_mem.mpr
      rintro ⟨key, v⟩ hEntry
      have hFound := (Table.mem_entries_iff _ key v).mp hEntry
      exact hNobody key v.handler (hTable key v hFound)
    have hUnbound : s.client.registry.bindings = 0 := by
      simp [Registry.bindings, bindingsOf, hEmpty]
    have hCancelled : s.client.registry.handlers = 0 := by
      simp [Registry.handlers, Registry.parts, hEmpty]
    rw [hUnbound, zero_add] at hConserved
    rw [hCancelled, add_zero] at hCovered
    exact ⟨hEmpty, hConserved, hCovered⟩
  · exact hConserved
  · exact hCovered
  · intro j request call hLate hAt
    exact hShutOut.refused hLate hAt

end Steps

------------------------------------------------------------
-- A call that closing finds under way
------------------------------------------------------------

/- Handlers that take everything and are cancelled well. -/
def patient : Handlers Nat Unit where
  handle := fun _ _ world => (.ok, world)
  cancel := fun _ world => (.ok (), world)

/- The key of a subscription to all topics. -/
def listening : Key where
  client := "client"
  topic := "channels.>"

/- A broker in memory that nobody has used yet. -/
def unused : Traffic Nat Nat (LocalBroker Nat) Unit :=
  start "channels" (.create false) ()

/- A client of a broker in memory with some subscriptions and queues. -/
def clientWith
    (closed : Bool)
    (table : Table (Subscription Nat Nat))
    (queues : List (LocalBroker.Queue Nat)) :
    Client Nat Nat (LocalBroker Nat) Unit where
  registry :=
    { table := table
      poisoned := false }
  state :=
    { root := "channels"
      closed := closed
      transport :=
        { available := true
          refusal := none
          log := none
          queues := queues }
      world := () }

/- A handler was subscribed. -/
def subscribed : Traffic Nat Nat (LocalBroker Nat) Unit where
  client :=
    clientWith false (Table.empty.insert listening ⟨10, 0⟩)
      [⟨10, [], true, true⟩]
  calls := [(.subscribe listening 10, .done (.ok ()))]
  log := [(0, .bind listening 10 (.ok 0))]

theorem reachable_subscribed :
    Reachable LocalBroker.transport patient unused subscribed :=
  reachable_moves _ _
    [ .ask (.subscribe listening 10)
    , .advance 0, .advance 0, .advance 0, .advance 0, .advance 0 ]
    unused

/-
  A call to take the handler out again was let in, when another
  call marked the client as closed.
-/
def parting : Traffic Nat Nat (LocalBroker Nat) Unit where
  client :=
    clientWith true (Table.empty.insert listening ⟨10, 0⟩)
      [⟨10, [], true, true⟩]
  calls :=
    [ (.subscribe listening 10, .done (.ok ()))
    , (.unsubscribe listening, .changing (.accessing (.remove listening)))
    , (.clear, .clearing (.start .clear)) ]
  log := [(0, .bind listening 10 (.ok 0))]

/- Both calls have returned. -/
def parted : Traffic Nat Nat (LocalBroker Nat) Unit where
  client := clientWith true .empty [⟨10, [], false, true⟩]
  calls :=
    [ (.subscribe listening 10, .done (.ok ()))
    , (.unsubscribe listening, .done (.ok ()))
    , (.clear, .done (.ok ())) ]
  log :=
    [ (0, .bind listening 10 (.ok 0))
    , (1, .cancel 10 (.ok ()))
    , (1, .unbind 0 (.ok ())) ]

/- Somebody tries to subscribe once more. -/
def returning : Traffic Nat Nat (LocalBroker Nat) Unit where
  client := parted.client
  calls := parted.calls ++ [(.subscribe listening 11, .done (.error .closed))]
  log := parted.log

theorem reachable_parting :
    Reachable LocalBroker.transport patient unused parting :=
  reachable_subscribed.trans
    (reachable_moves _ _
      [ .ask (.unsubscribe listening), .advance 1
      , .ask .clear, .advance 2 ]
      subscribed)

theorem reachable_parted :
    Reachable LocalBroker.transport patient parting parted :=
  reachable_moves _ _
    [ .advance 1, .advance 2, .advance 1, .advance 2, .advance 1
    , .advance 2, .advance 1 ]
    parting

theorem reachable_returning :
    Reachable LocalBroker.transport patient parted returning :=
  reachable_moves _ _
    [ .ask (.subscribe listening 11), .advance 3 ]
    parted

/- The handler is gone for good, and no other one comes. -/
theorem parting_closed_for_good :
    Reachable LocalBroker.transport patient unused parted ∧
    parted.calls[2]? = some (.clear, .done (.ok ())) ∧
    Reachable LocalBroker.transport patient parted returning ∧
    parting.EmptiedBy 2 ∧
    (∀ key handler, ¬ parting.Admitted key handler) ∧
    returning.client.registry.table.entries = [] ∧
    (returning.unbound : Multiset Nat) = returning.bound ∧
    returning.bound = [0] ∧
    (returning.served : Multiset Nat) ≤ returning.cancelled ∧
    returning.served = [10] := by
  have hParted := reachable_parting.trans reachable_parted
  have hReturned :
      ∀ j < parted.calls.length,
        ∃ request result,
          returning.calls[j]? = some (request, .done result) := by
    intro j hThere
    rcases j with _ | _ | _ | j
    · exact ⟨_, _, rfl⟩
    · exact ⟨_, _, rfl⟩
    · exact ⟨_, _, rfl⟩
    · exact absurd hThere (by simp [parted])
  have hEmptied : parting.EmptiedBy 2 := ⟨rfl, .clear, rfl⟩
  have hNobody : ∀ key handler, ¬ parting.Admitted key handler := by
    rintro key handler ⟨c, hMember, hIncoming⟩
    simp only [parting, List.mem_cons, List.not_mem_nil, or_false]
      at hMember
    rcases hMember with rfl | rfl | rfl
    · cases hIncoming
    · cases hIncoming
    · cases hIncoming
  rcases closed_for_good hParted (i := 2) rfl reachable_returning hReturned
      rfl with
    ⟨-, hBefore, -⟩
  rcases (hBefore parting 2 reachable_parted
      hEmptied).2 hNobody with
    ⟨hEmpty, hUnbound, hCancelled⟩
  exact
    ⟨hParted, rfl, reachable_returning, hEmptied, hNobody, hEmpty,
      hUnbound, rfl, hCancelled, rfl⟩

/- A second call found the handler in its way, and cancels it. -/
def replacing : Traffic Nat Nat (LocalBroker Nat) Unit where
  client := subscribed.client
  calls :=
    [ (.subscribe listening 10, .done (.ok ()))
    , (.subscribe listening 11,
        .changing (.cancelling 10 (.bind listening 11))) ]
  log := subscribed.log

/- Meanwhile a third call closed the client. -/
def swept : Traffic Nat Nat (LocalBroker Nat) Unit where
  client := clientWith true .empty [⟨10, [], false, true⟩]
  calls :=
    [ (.subscribe listening 10, .done (.ok ()))
    , (.subscribe listening 11,
        .changing (.cancelling 10 (.bind listening 11)))
    , (.clear, .done (.ok ())) ]
  log :=
    [ (0, .bind listening 10 (.ok 0))
    , (2, .cancel 10 (.ok ()))
    , (2, .unbind 0 (.ok ())) ]

/- The second call went on to put its own handler in. -/
def outlasted : Traffic Nat Nat (LocalBroker Nat) Unit where
  client :=
    clientWith true (Table.empty.insert listening ⟨11, 1⟩)
      [⟨10, [], false, true⟩, ⟨11, [], true, true⟩]
  calls :=
    [ (.subscribe listening 10, .done (.ok ()))
    , (.subscribe listening 11, .done (.ok ()))
    , (.clear, .done (.ok ())) ]
  log :=
    [ (0, .bind listening 10 (.ok 0))
    , (2, .cancel 10 (.ok ()))
    , (2, .unbind 0 (.ok ()))
    , (1, .cancel 10 (.ok ()))
    , (1, .bind listening 11 (.ok 1)) ]

theorem reachable_replacing :
    Reachable LocalBroker.transport patient subscribed replacing :=
  reachable_moves _ _
    [.ask (.subscribe listening 11), .advance 1, .advance 1] subscribed

theorem reachable_swept :
    Reachable LocalBroker.transport patient replacing swept :=
  reachable_moves _ _
    [ .ask .clear
    , .advance 2, .advance 2, .advance 2, .advance 2, .advance 2
    , .advance 2 ]
    replacing

theorem reachable_outlasted :
    Reachable LocalBroker.transport patient swept outlasted :=
  reachable_moves _ _
    [.advance 1, .advance 1, .advance 1, .advance 1] swept

/-
  All calls have returned, closing without a fault, and the
  table is not empty: a handler is left in it that was never
  cancelled, and whose binding was not given up.
-/
theorem subscription_outlasts_closing :
    Reachable LocalBroker.transport patient unused outlasted ∧
    (∀ c ∈ outlasted.calls, c.2 = .done (.ok ())) ∧
    outlasted.calls[2]? = some (.clear, .done (.ok ())) ∧
    outlasted.client.state.closed = true ∧
    outlasted.client.registry.table.get? listening = some ⟨11, 1⟩ ∧
    11 ∉ outlasted.cancelled ∧
    1 ∉ outlasted.unbound := by
  have hReplacing := reachable_subscribed.trans reachable_replacing
  have hSwept := hReplacing.trans reachable_swept
  have hReturned : ∀ c ∈ outlasted.calls, c.2 = .done (.ok ()) := by
    simp [outlasted]
  exact
    ⟨hSwept.trans reachable_outlasted, hReturned, rfl, rfl, rfl,
      by decide, by decide⟩

end Traffic

end Courier.Client
