import Courier.Proofs.Registration.Bindings
import Courier.Proofs.Registration.Handlers

/-
  This file says where the handlers come from that are found
  on a registry: each of them was brought there by a call that
  subscribed it, and has it no longer to put in.

  Where each call subscribes a handler of its own, a handler
  is thus brought by one call, for one key, and it is neither
  cancelled nor found anywhere while that call has yet to put
  it in.

  Key definitions include:
    * `Traffic.Cancelled`, `Traffic.CancelledWell`
    * `Traffic.Brought`
    * `Traffic.Traced`
    * `Traffic.OwnHandlers`

  Main statements:
    * `Traffic.Traced.step`, `Traffic.Reachable.traced`
    * `Traffic.OwnHandlers.not_brought`
    * `Traffic.OwnHandlers.key_unique`
-/

namespace Courier.Registration

variable {H B : Type}

namespace Traffic

------------------------------------------------------------
-- Handlers that were cancelled
------------------------------------------------------------

/- A handler was cancelled, well or not. -/
def Cancelled
    (s : Traffic H B)
    (handler : H) : Prop :=
  ∃ i outcome, (i, .cancel handler outcome) ∈ s.log

/- A handler was cancelled, and cancelling it went well. -/
def CancelledWell
    (s : Traffic H B)
    (handler : H) : Prop :=
  ∃ i, (i, .cancel handler (.ok ())) ∈ s.log

theorem CancelledWell.cancelled
    {s : Traffic H B}
    {handler : H}
    (hWell : s.CancelledWell handler) :
    s.Cancelled handler := by
  rcases hWell with ⟨i, hMember⟩
  exact ⟨i, .ok (), hMember⟩

/- What was cancelled once was cancelled for good. -/
theorem Cancelled.mono
    {s s' : Traffic H B}
    {handler : H}
    (hCancelled : s.Cancelled handler)
    (hLog : s.log ⊆ s'.log) :
    s'.Cancelled handler := by
  rcases hCancelled with ⟨i, outcome, hMember⟩
  exact ⟨i, outcome, hLog hMember⟩

theorem CancelledWell.mono
    {s s' : Traffic H B}
    {handler : H}
    (hWell : s.CancelledWell handler)
    (hLog : s.log ⊆ s'.log) :
    s'.CancelledWell handler := by
  rcases hWell with ⟨i, hMember⟩
  exact ⟨i, hLog hMember⟩

------------------------------------------------------------
-- Handlers that were brought
------------------------------------------------------------

/-
  A call subscribed a handler under a key, and has it no
  longer to put in.
-/
def Brought
    (s : Traffic H B)
    (key : Key)
    (handler : H) : Prop :=
  ∃ (i : Nat) (call : Call H B),
    s.calls[i]? = some (.subscribe key handler, call) ∧
      call.incoming? = none

/- Where the handlers come from that are found at any time. -/
structure Traced (s : Traffic H B) : Prop where
  /- A call has only the handler to put in that it subscribes. -/
  asked :
    ∀ {i : Nat} {request call},
      s.calls[i]? = some (request, call) →
      ∀ {key handler}, call.incoming? = some (key, handler) →
      request = .subscribe key handler
  present :
    ∀ {key v}, s.registry.table.get? key = some v →
      s.Brought key v.handler
  found :
    ∀ {c}, c ∈ s.calls →
      ∀ {key handler}, c.2.found? = some (key, handler) →
      s.Brought key handler
  /- A handler that is to be replaced was cancelled. -/
  replacing :
    ∀ {c}, c ∈ s.calls →
      ∀ {key handler}, c.2.replacing? = some (key, handler) →
      s.Brought key handler ∧ s.CancelledWell handler
  /- What is taken out was subscribed and bound. -/
  leaving :
    ∀ {c}, c ∈ s.calls →
      ∀ {v}, v ∈ c.2.leaving →
      ∃ key, s.Brought key v.handler ∧ s.Bound key v
  cancelled :
    ∀ {handler}, s.Cancelled handler → ∃ key, s.Brought key handler

theorem traced_start :
    (start : Traffic H B).Traced where
  asked := nofun
  present := nofun
  found := nofun
  replacing := nofun
  leaving := nofun
  cancelled := nofun

/- What the log has after a step was there, or happened just then. -/
theorem mem_log_advance
    {s : Traffic H B}
    {i : Nat}
    {happening : Option (Happening H B)}
    {j : Nat}
    {x : Happening H B}
    (hLog : (j, x) ∈ s.log ++ happening.toList.map (i, ·)) :
    (j, x) ∈ s.log ∨ happening = some x := by
  rcases List.mem_append.mp hLog with hOld | hNow
  · exact Or.inl hOld
  · rcases happening with _ | happening
    · exact absurd hNow List.not_mem_nil
    · cases List.mem_singleton.mp hNow
      exact Or.inr rfl

section Steps

variable [DecidableEq H]
variable {s s' : Traffic H B}

/- What was brought once was brought for good. -/
theorem Brought.step
    {key : Key}
    {handler : H}
    (hBrought : s.Brought key handler)
    (hStep : Step s s') :
    s'.Brought key handler := by
  rcases hBrought with ⟨j, c, hAt, hIncoming⟩
  have hBound := (List.getElem?_eq_some_iff.mp hAt).1
  cases hStep with
  | ask request =>
      exact ⟨j, c, (List.getElem?_append_left hBound).trans hAt, hIncoming⟩
  | @advance i _ _ call' _ _ hAt' hGoes hNew =>
      by_cases hSame : i = j
      · subst hSame
        rw [hAt] at hAt'
        cases hAt'
        refine ⟨i, call', List.getElem?_set_self hBound, ?_⟩
        cases hIncoming' : call'.incoming? with
        | none => rfl
        | some x =>
            rw [Call.incoming?_goes hGoes hIncoming'] at hIncoming
            exact absurd hIncoming nofun
      · exact ⟨j, c, (List.getElem?_set_ne hSame).trans hAt, hIncoming⟩
  | poison => exact ⟨j, c, hAt, hIncoming⟩
  | reorder hReordered => exact ⟨j, c, hAt, hIncoming⟩

/-
  A handler that was cancelled after a step had been brought
  before it.
-/
theorem Traced.brought_of_cancelled
    (hTraced : s.Traced)
    {i : Nat}
    {request : Request H}
    {call call' : Call H B}
    {r : Registry H B}
    {happening : Option (Happening H B)}
    (hAt : s.calls[i]? = some (request, call))
    (hGoes : call.Goes s.registry happening call' r)
    {j : Nat}
    {handler : H}
    {outcome : Except String Unit}
    (hLog :
      (j, .cancel handler outcome) ∈
        s.log ++ happening.toList.map (i, ·)) :
    ∃ key, s.Brought key handler := by
  have hCall := List.mem_of_getElem? hAt
  rcases mem_log_advance hLog with hOld | hCancel
  · exact hTraced.cancelled ⟨j, outcome, hOld⟩
  · rcases Call.cancelled_goes hGoes hCancel with
      ⟨v, hLeaving, rfl⟩ | ⟨key, hFound, -⟩
    · rcases hTraced.leaving hCall hLeaving with ⟨key, hBrought, -⟩
      exact ⟨key, hBrought⟩
    · exact ⟨key, hTraced.found hCall hFound⟩

/- A call takes a step. -/
theorem Traced.advance
    (hTraced : s.Traced)
    (hKept : s.Kept)
    {i : Nat}
    {request : Request H}
    {call call' : Call H B}
    {r : Registry H B}
    {happening : Option (Happening H B)}
    (hAt : s.calls[i]? = some (request, call))
    (hGoes : call.Goes s.registry happening call' r)
    (hNew : ∀ b ∈ happening.bind Happening.bound?, b ∉ s.bound) :
    Traced
      { registry := r
        calls := s.calls.set i (request, call')
        log := s.log ++ happening.toList.map (i, ·) } := by
  have hCall := List.mem_of_getElem? hAt
  have hLength := (List.getElem?_eq_some_iff.mp hAt).1
  have hStep := Step.advance i hAt hGoes hNew
  constructor
  · -- asked
    intro j request' c hAt' key handler hIncoming
    rcases Pool.stepped_cases hAt' with ⟨-, hSelf⟩ | ⟨-, hOther⟩
    · cases hSelf
      exact hTraced.asked hAt (Call.incoming?_goes hGoes hIncoming)
    · exact hTraced.asked hOther hIncoming
  · -- present
    intro key v hFound
    rcases Call.get?_goes hGoes hFound with hOld | hUnplaced
    · exact (hTraced.present hOld).step hStep
    · have hAsked :=
        hTraced.asked hAt (Call.incoming?_of_unplaced? hUnplaced)
      subst hAsked
      exact ⟨i, call', List.getElem?_set_self hLength,
        Call.incoming?_goes_of_unplaced? hGoes hUnplaced⟩
  · -- found
    intro c hMember key handler hFound
    rcases List.mem_or_eq_of_mem_set hMember with hOther | hSelf
    · exact (hTraced.found hOther hFound).step hStep
    · subst hSelf
      rcases Call.found?_goes hGoes hFound with
        ⟨_, v, _, _, hThere, rfl⟩
      exact (hTraced.present hThere).step hStep
  · -- replacing
    intro c hMember key handler hReplacing
    rcases List.mem_or_eq_of_mem_set hMember with hOther | hSelf
    · rcases hTraced.replacing hOther hReplacing with ⟨hBrought, hWell⟩
      exact ⟨hBrought.step hStep, hWell.mono hStep.log_subset⟩
    · subst hSelf
      rcases Call.replacing?_goes hGoes hReplacing with
        hBefore | ⟨hFound, hCancel⟩
      · rcases hTraced.replacing hCall hBefore with ⟨hBrought, hWell⟩
        exact ⟨hBrought.step hStep, hWell.mono hStep.log_subset⟩
      · refine ⟨(hTraced.found hCall hFound).step hStep, i, ?_⟩
        simp [hCancel]
  · -- leaving
    intro c hMember v hLeaving
    have hBefore :
        ∃ key, s.Brought key v.handler ∧ s.Bound key v := by
      rcases List.mem_or_eq_of_mem_set hMember with hOther | hSelf
      · exact hTraced.leaving hOther hLeaving
      · subst hSelf
        rcases Call.leaving_goes hGoes hLeaving with
          hBefore | ⟨key, hThere, -⟩
        · exact hTraced.leaving hCall hBefore
        · exact ⟨key, hTraced.present hThere, hKept.present hThere⟩
    rcases hBefore with ⟨key, hBrought, hBound⟩
    exact ⟨key, hBrought.step hStep, hBound.mono hStep.log_subset⟩
  · -- cancelled
    rintro handler ⟨j, outcome, hLog⟩
    rcases hTraced.brought_of_cancelled hAt hGoes hLog with
      ⟨key, hBrought⟩
    exact ⟨key, hBrought.step hStep⟩

/- All this holds after each step. -/
theorem Traced.step
    (hTraced : s.Traced)
    (hKept : s.Kept)
    (hStep : Step s s') :
    s'.Traced := by
  have hStep' := hStep
  cases hStep with
  | ask request =>
      rcases Call.inHand_start (B := B) request with
        ⟨hFound, hReplacing, hLeaving, -⟩
      constructor
      · intro i request' c hAt key handler hIncoming
        rcases Pool.joined_cases hAt with hOld | ⟨-, hNew⟩
        · exact hTraced.asked hOld hIncoming
        · cases hNew
          exact Call.request_of_incoming?_start hIncoming
      · intro key v hThere
        exact (hTraced.present hThere).step hStep'
      · intro c hMember key handler hFound'
        rcases List.mem_append.mp hMember with hOld | hNew
        · exact (hTraced.found hOld hFound').step hStep'
        · rw [List.mem_singleton.mp hNew, hFound] at hFound'
          exact absurd hFound' nofun
      · intro c hMember key handler hReplacing'
        rcases List.mem_append.mp hMember with hOld | hNew
        · rcases hTraced.replacing hOld hReplacing' with ⟨hBrought, hWell⟩
          exact ⟨hBrought.step hStep', hWell⟩
        · rw [List.mem_singleton.mp hNew, hReplacing] at hReplacing'
          exact absurd hReplacing' nofun
      · intro c hMember v hLeaving'
        rcases List.mem_append.mp hMember with hOld | hNew
        · rcases hTraced.leaving hOld hLeaving' with ⟨key, hBrought, hBound⟩
          exact ⟨key, hBrought.step hStep', hBound⟩
        · rw [List.mem_singleton.mp hNew, hLeaving] at hLeaving'
          exact absurd hLeaving' List.not_mem_nil
      · intro handler hCancelled
        rcases hTraced.cancelled hCancelled with ⟨key, hBrought⟩
        exact ⟨key, hBrought.step hStep'⟩
  | advance i hAt hGoes hNew => exact hTraced.advance hKept hAt hGoes hNew
  | poison =>
      exact ⟨hTraced.asked, hTraced.present, hTraced.found,
        hTraced.replacing, hTraced.leaving, hTraced.cancelled⟩
  | reorder hReordered =>
      refine ⟨hTraced.asked, ?_, hTraced.found,
        hTraced.replacing, hTraced.leaving, hTraced.cancelled⟩
      intro key v hThere
      rw [Table.get?_eq_of_reordered hReordered.1] at hThere
      exact hTraced.present hThere

theorem Reachable.traced
    {first : Traffic H B}
    (hReachable : Reachable first s)
    (hKept : first.Kept)
    (hTraced : first.Traced) :
    s.Traced := by
  induction hReachable with
  | start => exact hTraced
  | step hEarlier hStep ih => exact ih.step (hEarlier.kept hKept) hStep

end Steps

------------------------------------------------------------
-- Handlers of their own
------------------------------------------------------------

/- No two calls subscribe one handler. -/
def OwnHandlers
    (s : Traffic H B) : Prop :=
  ∀ (i j : Nat) (key key' : Key) (handler : H) (call call' : Call H B),
    s.calls[i]? = some (.subscribe key handler, call) →
    s.calls[j]? = some (.subscribe key' handler, call') →
    i = j

section OwnHandlers

variable {s s' : Traffic H B}

/- They did not before, either. -/
theorem OwnHandlers.before
    [DecidableEq H]
    (hOwn : s'.OwnHandlers)
    (hStep : Step s s') :
    s.OwnHandlers := by
  intro i j key key' handler call call' hAt hAt'
  rcases hStep.request_stays hAt with ⟨later, hLater⟩
  rcases hStep.request_stays hAt' with ⟨later', hLater'⟩
  exact hOwn i j key key' handler later later' hLater hLater'

/- A handler that a call has yet to put in was not brought. -/
theorem OwnHandlers.not_brought
    (hOwn : s.OwnHandlers)
    (hTraced : s.Traced)
    {i : Nat}
    {request : Request H}
    {call : Call H B}
    (hAt : s.calls[i]? = some (request, call))
    {key key' : Key}
    {handler : H}
    (hIncoming : call.incoming? = some (key, handler)) :
    ¬ s.Brought key' handler := by
  rintro ⟨j, call', hAt', hNone⟩
  have hAsked := hTraced.asked hAt hIncoming
  subst hAsked
  have hSame := hOwn i j key key' handler call call' hAt hAt'
  subst hSame
  rw [hAt] at hAt'
  cases hAt'
  rw [hIncoming] at hNone
  exact absurd hNone nofun

/- A handler is brought for one key only. -/
theorem OwnHandlers.key_unique
    (hOwn : s.OwnHandlers)
    {key key' : Key}
    {handler : H}
    (hBrought : s.Brought key handler)
    (hBrought' : s.Brought key' handler) :
    key = key' := by
  rcases hBrought with ⟨i, call, hAt, -⟩
  rcases hBrought' with ⟨j, call', hAt', -⟩
  have hSame := hOwn i j key key' handler call call' hAt hAt'
  subst hSame
  rw [hAt] at hAt'
  cases hAt'
  rfl

end OwnHandlers

end Traffic

end Courier.Registration
