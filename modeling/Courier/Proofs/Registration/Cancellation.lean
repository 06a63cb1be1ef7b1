import Courier.Proofs.Registration.Origins

/-
  No subscription goes on or ends behind its handler's back,
  in whatever order calls take their steps, as long as each
  call subscribes a handler of its own and the lock on the
  table is not left poisoned.  A binding is given up only
  after its handler was cancelled, and once no call is in
  progress a handler is in the table or was cancelled, and not
  both if cancelling it went well.

  A handler in the table that was cancelled well is about to
  be taken out by the call that cancelled it, which goes on
  until the handler is gone.  A subscription that is gone
  without its handler being cancelled is in the hands of the
  call that took it out, which cancels the handler next.

  Key definitions include:
    * `Traffic.Quiet`
    * `Traffic.GivenUp`
    * `Traffic.Orderly`

  Main statements:
    * `Traffic.Orderly.step`, `Traffic.Reachable.orderly`
    * `Traffic.cancelled_before_left`
-/

namespace Courier.Registration

variable {H B : Type}

/- A call owns the binding that it is giving up. -/
theorem Call.mem_owned_of_releasing?
    {c : Call H B}
    {b : B}
    (hReleasing : c.releasing? = some b) :
    b ∈ c.owned := by
  unfold releasing? at hReleasing
  split at hReleasing
  · cases hReleasing
    exact Multiset.mem_cons_self _ _
  · exact absurd hReleasing nofun

namespace Traffic

------------------------------------------------------------
-- Order
------------------------------------------------------------

/- No call is in progress. -/
def Quiet
    (s : Traffic H B) : Prop :=
  ∀ c ∈ s.calls, ∃ result, c.2 = .done result

/- When no call is in progress, none has anything in hand. -/
theorem Quiet.emptyHanded
    {s : Traffic H B}
    (hQuiet : s.Quiet)
    {c : Request H × Call H B}
    (hMember : c ∈ s.calls) :
    c.2.replacing? = none ∧ c.2.unplaced? = none ∧ c.2.leaving = [] := by
  rcases hQuiet c hMember with ⟨result, hDone⟩
  rw [hDone]
  exact ⟨rfl, rfl, rfl⟩

/- A binding was given up, or a call has begun to give it up. -/
def GivenUp
    (s : Traffic H B)
    (b : B) : Prop :=
  b ∈ s.unbound ∨ ∃ c ∈ s.calls, c.2.releasing? = some b

/- What holds of handlers and their bindings at any time. -/
structure Orderly (s : Traffic H B) : Prop where
  /- What was taken out is not in the table. -/
  out :
    ∀ {c}, c ∈ s.calls →
      ∀ {v}, v ∈ c.2.leaving →
      ∀ {key w}, s.registry.table.get? key = some w →
      w.handler ≠ v.handler
  /- A handler that was cancelled well is about to be taken out. -/
  stale :
    ∀ {key v}, s.registry.table.get? key = some v →
      s.CancelledWell v.handler →
      ∃ c ∈ s.calls, c.2.replacing? = some (key, v.handler)
  /- What is neither to come nor there was cancelled, or will be. -/
  accounted :
    ∀ {key v}, s.Bound key v →
      (∃ c ∈ s.calls, c.2.unplaced? = some (key, v)) ∨
      s.registry.table.get? key = some v ∨
      s.Cancelled v.handler ∨
      ∃ c ∈ s.calls, v ∈ c.2.leaving
  /- A binding is given up after its handler was cancelled. -/
  late :
    ∀ {key v}, s.Bound key v →
      s.GivenUp v.binding → s.Cancelled v.handler

theorem orderly_start :
    (start : Traffic H B).Orderly where
  out := nofun
  stale := nofun
  accounted := nofun
  late := nofun

/- What is given up was made. -/
theorem Kept.exists_bound_of_givenUp
    {s : Traffic H B}
    (hKept : s.Kept)
    {b : B}
    (hGivenUp : s.GivenUp b) :
    ∃ key v, s.Bound key v ∧ v.binding = b := by
  have hMember : b ∈ (s.bound : Multiset B) := by
    rw [← hKept.conserved]
    rcases hGivenUp with hUnbound | ⟨c, hCall, hReleasing⟩
    · exact Multiset.mem_add.mpr (Or.inr hUnbound)
    · have hOwned :=
        Pool.mem_sum_map (f := fun c => c.2.owned) hCall
          (Call.mem_owned_of_releasing? hReleasing)
      exact Multiset.mem_add.mpr
        (Or.inl (Multiset.mem_add.mpr (Or.inr hOwned)))
  rcases mem_bound_iff.mp (Multiset.mem_coe.mp hMember) with
    ⟨i, key, handler, hLog⟩
  exact ⟨key, ⟨handler, b⟩, ⟨i, hLog⟩, rfl⟩

------------------------------------------------------------
-- Steps
------------------------------------------------------------

section Advance

variable [DecidableEq H]
variable {s : Traffic H B}
variable {i : Nat}
variable {request : Request H}
variable {call call' : Call H B}
variable {r : Registry H B}
variable {happening : Option (Happening H B)}

/- What leaves by a step is not in the table after it. -/
theorem Orderly.out_advance
    (hOrderly : s.Orderly)
    (hTraced : s.Traced)
    (hOwn : s.OwnHandlers)
    (hAt : s.calls[i]? = some (request, call))
    (hGoes : call.Goes s.registry happening call' r)
    {c : Request H × Call H B}
    (hMember : c ∈ s.calls.set i (request, call'))
    {v w : Subscription H B}
    (hLeaving : v ∈ c.2.leaving)
    {key : Key}
    (hThere : r.table.get? key = some w) :
    w.handler ≠ v.handler := by
  have hCall := List.mem_of_getElem? hAt
  intro hSame
  -- No handler that was brought before is put in by this step.
  have hUnplaced :
      ∀ {k k' : Key} {u : Subscription H B},
        s.Brought k' u.handler → call.unplaced? ≠ some (k, u) := by
    intro k k' u hBrought hUnplaced
    exact hOwn.not_brought hTraced hAt
      (Call.incoming?_of_unplaced? hUnplaced) hBrought
  have hBefore :
      ∀ {c}, c ∈ s.calls → v ∉ c.2.leaving := by
    intro c hMember hLeaving
    rcases Call.get?_goes hGoes hThere with hOld | hPut
    · exact hOrderly.out hMember hLeaving hOld hSame
    · rcases hTraced.leaving hMember hLeaving with ⟨k, hBrought, -⟩
      rw [← hSame] at hBrought
      exact hUnplaced hBrought hPut
  rcases List.mem_or_eq_of_mem_set hMember with hOther | hSelf
  · exact hBefore hOther hLeaving
  · subst hSelf
    rcases Call.leaving_goes hGoes hLeaving with
      hLeft | ⟨k, hTaken, hAfter⟩
    · exact hBefore hCall hLeft
    · have hBrought := hTraced.present hTaken
      rw [← hSame] at hBrought
      rcases Call.get?_goes hGoes hThere with hOld | hPut
      · have hKey := hOwn.key_unique (hTraced.present hOld) hBrought
        subst hKey
        exact hUnplaced hBrought (hAfter w hThere)
      · exact hUnplaced hBrought hPut

/- What was cancelled well is about to be taken out after a step. -/
theorem Orderly.stale_advance
    (hOrderly : s.Orderly)
    (hTraced : s.Traced)
    (hOwn : s.OwnHandlers)
    (hUsable : s.registry.poisoned = false)
    (hAt : s.calls[i]? = some (request, call))
    (hGoes : call.Goes s.registry happening call' r)
    {key : Key}
    {v : Subscription H B}
    (hThere : r.table.get? key = some v)
    {j : Nat}
    (hLog :
      (j, .cancel v.handler (.ok ())) ∈
        s.log ++ happening.toList.map (i, ·)) :
    ∃ c ∈ s.calls.set i (request, call'),
      c.2.replacing? = some (key, v.handler) := by
  have hCall := List.mem_of_getElem? hAt
  have hLength := (List.getElem?_eq_some_iff.mp hAt).1
  have hSelf := List.mem_set hLength (request, call')
  have hNotUnplaced : call.unplaced? ≠ some (key, v) := by
    intro hUnplaced
    rcases hTraced.brought_of_cancelled hAt hGoes hLog with
      ⟨k, hBrought⟩
    exact hOwn.not_brought hTraced hAt
      (Call.incoming?_of_unplaced? hUnplaced) hBrought
  rcases Call.get?_goes hGoes hThere with hOld | hUnplaced
  · rcases mem_log_advance hLog with hBefore | hCancel
    · -- The call that cancelled it goes on, or it is gone now.
      rcases hOrderly.stale hOld ⟨j, hBefore⟩ with
        ⟨c, hMember, hReplacing⟩
      rcases Pool.eq_or_mem_set hMember hAt (request, call') with
        hSame | hOther
      · subst hSame
        rcases Call.replaced_goes hGoes hUsable hReplacing hThere with
          hStill | hUnplaced
        · exact ⟨_, hSelf, hStill⟩
        · exact absurd hUnplaced hNotUnplaced
      · exact ⟨c, hOther, hReplacing⟩
    · -- It was found in the table, as what is taken out is not there.
      rcases Call.cancelled_goes hGoes hCancel with
        ⟨w, hLeaving, hSame⟩ | ⟨k, hFound, hNext⟩
      · exact absurd hSame.symm (hOrderly.out hCall hLeaving hOld)
      · have hKey :=
          hOwn.key_unique (hTraced.found hCall hFound)
            (hTraced.present hOld)
        subst hKey
        exact ⟨_, hSelf, hNext rfl⟩
  · exact absurd hUnplaced hNotUnplaced

/- What was bound is accounted for after a step. -/
theorem Orderly.accounted_advance
    (hOrderly : s.Orderly)
    (hTraced : s.Traced)
    (hUsable : s.registry.poisoned = false)
    (hAt : s.calls[i]? = some (request, call))
    (hGoes : call.Goes s.registry happening call' r)
    {j : Nat}
    {key : Key}
    {v : Subscription H B}
    (hLog :
      (j, .bind key v.handler (.ok v.binding)) ∈
        s.log ++ happening.toList.map (i, ·)) :
    (∃ c ∈ s.calls.set i (request, call'),
      c.2.unplaced? = some (key, v)) ∨
    r.table.get? key = some v ∨
    (s.Cancelled v.handler ∨
      ∃ outcome, happening = some (.cancel v.handler outcome)) ∨
    ∃ c ∈ s.calls.set i (request, call'), v ∈ c.2.leaving := by
  have hCall := List.mem_of_getElem? hAt
  have hLength := (List.getElem?_eq_some_iff.mp hAt).1
  have hSelf := List.mem_set hLength (request, call')
  rcases mem_log_advance hLog with hBefore | hMade
  · rcases hOrderly.accounted ⟨j, hBefore⟩ with
      ⟨c, hMember, hUnplaced⟩ | hThere | hCancelled |
      ⟨c, hMember, hLeaving⟩
    · rcases Pool.eq_or_mem_set hMember hAt (request, call') with
        hSame | hOther
      · subst hSame
        right
        left
        exact Call.get?_goes_of_unplaced? hGoes hUsable hUnplaced
      · exact Or.inl ⟨c, hOther, hUnplaced⟩
    · rcases Call.stays_or_leaves hGoes hThere with
        hStill | hLeaving | hReplacing
      · exact Or.inr (Or.inl hStill)
      · exact Or.inr (Or.inr (Or.inr ⟨_, hSelf, hLeaving⟩))
      · have hWell := (hTraced.replacing hCall hReplacing).2
        exact Or.inr (Or.inr (Or.inl (Or.inl hWell.cancelled)))
    · exact Or.inr (Or.inr (Or.inl (Or.inl hCancelled)))
    · rcases Pool.eq_or_mem_set hMember hAt (request, call') with
        hSame | hOther
      · subst hSame
        rcases Call.leaving_stays hGoes hLeaving with hStill | hCancel
        · exact Or.inr (Or.inr (Or.inr ⟨_, hSelf, hStill⟩))
        · exact Or.inr (Or.inr (Or.inl (Or.inr hCancel)))
      · exact Or.inr (Or.inr (Or.inr ⟨c, hOther, hLeaving⟩))
  · exact Or.inl ⟨_, hSelf, Call.unplaced?_goes_of_bound hGoes hMade⟩

/-
  A binding that is given up after a step was given up before
  it, or its handler was cancelled by then.
-/
theorem Traced.givenUp_advance
    (hTraced : s.Traced)
    (hKept : s.Kept)
    (hUsable : s.registry.poisoned = false)
    (hAt : s.calls[i]? = some (request, call))
    (hGoes : call.Goes s.registry happening call' r)
    {b : B}
    (hGivenUp :
      b ∈ (s.log ++ happening.toList.map (i, ·)).filterMap
          (·.2.unbound?) ∨
        ∃ c ∈ s.calls.set i (request, call'),
          c.2.releasing? = some b) :
    s.GivenUp b ∨
      ∃ key v,
        s.Bound key v ∧ v.binding = b ∧
        (s.Cancelled v.handler ∨
          ∃ outcome, happening = some (.cancel v.handler outcome)) := by
  have hCall := List.mem_of_getElem? hAt
  rcases hGivenUp with hUnbound | ⟨c, hMember, hReleasing⟩
  · left
    rw [unbound_append, List.mem_append, Option.mem_toList] at hUnbound
    rcases hUnbound with hOld | hNow
    · exact Or.inl hOld
    · exact Or.inr ⟨_, hCall, Call.releasing?_of_unbound hGoes hNow⟩
  · rcases List.mem_or_eq_of_mem_set hMember with hOther | hSelf
    · exact Or.inl (Or.inr ⟨c, hOther, hReleasing⟩)
    · subst hSelf
      right
      rcases Call.releasing?_goes hGoes hUsable hReleasing with
        ⟨v, hLeaving, hSame, hCancel⟩ | ⟨key, v, hThere, hSame, hReplacing⟩
      · rcases hTraced.leaving hCall hLeaving with ⟨key, -, hBound⟩
        exact ⟨key, v, hBound, hSame, Or.inr hCancel⟩
      · have hWell := (hTraced.replacing hCall hReplacing).2
        exact ⟨key, v, hKept.present hThere, hSame,
          Or.inl hWell.cancelled⟩

/- A call takes a step. -/
theorem Orderly.advance
    (hOrderly : s.Orderly)
    (hKept : s.Kept)
    (hTraced : s.Traced)
    (hOwn : s.OwnHandlers)
    (hUsable : s.registry.poisoned = false)
    (hAt : s.calls[i]? = some (request, call))
    (hGoes : call.Goes s.registry happening call' r)
    (hNew : ∀ b ∈ happening.bind Happening.bound?, b ∉ s.bound) :
    Orderly
      { registry := r
        calls := s.calls.set i (request, call')
        log := s.log ++ happening.toList.map (i, ·) } := by
  have hKept' := hKept.advance hAt hGoes hNew
  have hLog : s.log ⊆ s.log ++ happening.toList.map (i, ·) :=
    List.subset_append_left _ _
  have hCancelled :
      ∀ {handler : H},
        (s.Cancelled handler ∨
          ∃ outcome, happening = some (.cancel handler outcome)) →
        Cancelled
          { registry := r
            calls := s.calls.set i (request, call')
            log := s.log ++ happening.toList.map (i, ·) } handler := by
    rintro handler (hBefore | ⟨outcome, hNow⟩)
    · exact hBefore.mono hLog
    · exact ⟨i, outcome, by simp [hNow]⟩
  constructor
  · -- out
    intro c hMember v hLeaving key w hThere
    exact hOrderly.out_advance hTraced hOwn hAt hGoes hMember
      hLeaving hThere
  · -- stale
    rintro key v hThere ⟨j, hWell⟩
    exact hOrderly.stale_advance hTraced hOwn hUsable hAt hGoes
      hThere hWell
  · -- accounted
    rintro key v ⟨j, hBound⟩
    rcases hOrderly.accounted_advance hTraced hUsable hAt hGoes hBound with
      hUnplaced | hThere | hGone | hLeaving
    · exact Or.inl hUnplaced
    · exact Or.inr (Or.inl hThere)
    · exact Or.inr (Or.inr (Or.inl (hCancelled hGone)))
    · exact Or.inr (Or.inr (Or.inr hLeaving))
  · -- late
    intro key v hBound hGivenUp
    have hBefore :
        ∃ key' v',
          s.Bound key' v' ∧ v'.binding = v.binding ∧
          (s.Cancelled v'.handler ∨
            ∃ outcome, happening = some (.cancel v'.handler outcome)) := by
      rcases hTraced.givenUp_advance hKept hUsable hAt hGoes hGivenUp with
        hOld | hNow
      · rcases hKept.exists_bound_of_givenUp hOld with
          ⟨key', v', hBound', hSame⟩
        rw [← hSame] at hOld
        exact ⟨key', v', hBound', hSame,
          Or.inl (hOrderly.late hBound' hOld)⟩
      · exact hNow
    -- Only one handler was ever given this binding.
    rcases hBefore with ⟨key', v', ⟨j', hMade'⟩, hSame, hGone⟩
    rcases hBound with ⟨j, hMade⟩
    rw [hSame] at hMade'
    rw [(hKept'.unique hMade (hLog hMade')).2]
    exact hCancelled hGone

end Advance

section Steps

variable [DecidableEq H]
variable {s s' : Traffic H B}

/- All this holds after each step. -/
theorem Orderly.step
    (hOrderly : s.Orderly)
    (hKept : s.Kept)
    (hTraced : s.Traced)
    (hStep : Step s s')
    (hOwn : s'.OwnHandlers)
    (hUsable : s'.registry.poisoned = false) :
    s'.Orderly := by
  have hOwn' := hOwn.before hStep
  have hUsable' := hStep.usable hUsable
  cases hStep with
  | ask request =>
      rcases Call.inHand_start (B := B) request with
        ⟨-, -, hLeaving, hReleasing⟩
      constructor
      · intro c hMember v hLeaving' key w hThere
        rcases List.mem_append.mp hMember with hOld | hNew
        · exact hOrderly.out hOld hLeaving' hThere
        · rw [List.mem_singleton.mp hNew, hLeaving] at hLeaving'
          exact absurd hLeaving' List.not_mem_nil
      · intro key v hThere hWell
        rcases hOrderly.stale hThere hWell with ⟨c, hMember, hReplacing⟩
        exact ⟨c, List.mem_append_left _ hMember, hReplacing⟩
      · intro key v hBound
        rcases hOrderly.accounted hBound with
          ⟨c, hMember, hUnplaced⟩ | hThere | hCancelled |
          ⟨c, hMember, hLeaving'⟩
        · exact Or.inl ⟨c, List.mem_append_left _ hMember, hUnplaced⟩
        · exact Or.inr (Or.inl hThere)
        · exact Or.inr (Or.inr (Or.inl hCancelled))
        · exact Or.inr (Or.inr (Or.inr
            ⟨c, List.mem_append_left _ hMember, hLeaving'⟩))
      · intro key v hBound hGivenUp
        apply hOrderly.late hBound
        rcases hGivenUp with hUnbound | ⟨c, hMember, hReleasing'⟩
        · exact Or.inl hUnbound
        · rcases List.mem_append.mp hMember with hOld | hNew
          · exact Or.inr ⟨c, hOld, hReleasing'⟩
          · rw [List.mem_singleton.mp hNew, hReleasing] at hReleasing'
            exact absurd hReleasing' nofun
  | advance i hAt hGoes hNew =>
      exact hOrderly.advance hKept hTraced hOwn' hUsable' hAt hGoes hNew
  | poison => exact absurd hUsable nofun
  | reorder hReordered =>
      have hGet := Table.get?_eq_of_reordered hReordered.1
      constructor
      · intro c hMember v hLeaving key w hThere
        rw [hGet] at hThere
        exact hOrderly.out hMember hLeaving hThere
      · intro key v hThere hWell
        rw [hGet] at hThere
        exact hOrderly.stale hThere hWell
      · intro key v hBound
        rw [hGet]
        exact hOrderly.accounted hBound
      · exact hOrderly.late

theorem Reachable.orderly
    (hReachable : Reachable Traffic.start s)
    (hOwn : s.OwnHandlers)
    (hUsable : s.registry.poisoned = false) :
    s.Orderly := by
  induction hReachable with
  | start => exact orderly_start
  | step hEarlier hStep ih =>
      exact (ih (hOwn.before hStep) (hStep.usable hUsable)).step
        (hEarlier.kept kept_start)
        (hEarlier.traced kept_start traced_start)
        hStep hOwn hUsable

end Steps

------------------------------------------------------------
-- Handlers in the table and handlers that left it
------------------------------------------------------------

section Left

variable [DecidableEq H]

/-
  In whatever order calls take their steps on a registry and
  however callbacks come out, as long as each call subscribes
  a handler of its own and the lock is not left poisoned:
    * when no call is in progress, no handler in the table was
      ever cancelled well;
    * a handler that was once in the table and is nowhere in
      it when no call is in progress was cancelled;
    * a binding that was once in the table is not given up,
      nor begun to be, before its handler was cancelled.
-/
theorem cancelled_before_left
    {earlier s : Traffic H B}
    (hEarlier : Reachable start earlier)
    (hLater : Reachable earlier s)
    (hOwn : s.OwnHandlers)
    (hUsable : s.registry.poisoned = false) :
    (s.Quiet →
      ∀ key v, s.registry.table.get? key = some v →
      ¬ s.CancelledWell v.handler) ∧
    ∀ key v, earlier.registry.table.get? key = some v →
      (s.Quiet →
        (∀ key' w, s.registry.table.get? key' = some w →
          w.handler ≠ v.handler) →
        s.Cancelled v.handler) ∧
      (s.GivenUp v.binding → s.Cancelled v.handler) := by
  have hOrderly := (hEarlier.trans hLater).orderly hOwn hUsable
  refine ⟨?_, ?_⟩
  · intro hQuiet key v hThere hWell
    rcases hOrderly.stale hThere hWell with ⟨c, hMember, hReplacing⟩
    rw [(hQuiet.emptyHanded hMember).1] at hReplacing
    exact absurd hReplacing nofun
  · intro key v hOnce
    have hBound : s.Bound key v :=
      ((hEarlier.kept kept_start).present hOnce).mono hLater.log_subset
    refine ⟨?_, hOrderly.late hBound⟩
    intro hQuiet hGone
    rcases hOrderly.accounted hBound with
      ⟨c, hMember, hUnplaced⟩ | hThere | hCancelled |
      ⟨c, hMember, hLeaving⟩
    · rw [(hQuiet.emptyHanded hMember).2.1] at hUnplaced
      exact absurd hUnplaced nofun
    · exact absurd rfl (hGone key v hThere)
    · exact hCancelled
    · rw [(hQuiet.emptyHanded hMember).2.2] at hLeaving
      exact absurd hLeaving List.not_mem_nil

------------------------------------------------------------
-- Two calls that replace one handler
------------------------------------------------------------

/- A handler was subscribed. -/
def settled : Traffic Nat Nat where
  registry :=
    { table := Table.empty.insert listening ⟨10, 0⟩
      poisoned := false }
  calls := [(.subscribe listening 10, .done (.ok ()))]
  log := [(0, .bind listening 10 (.ok 0))]

theorem reachable_settled :
    Reachable start settled := by
  have hStart : Reachable (start : Traffic Nat Nat) _ := .start
  have hAsked := hStart.step (.ask (.subscribe listening 10))
  have hFree := hAsked.step (.advance 0 rfl (.access _) nofun)
  have hBound :=
    hFree.step (.advance 0 rfl (.bind _ _ _ (.ok 0)) (by decide))
  have hAdded := hBound.step (.advance 0 rfl (.access _) nofun)
  exact hAdded

/-
  Two calls found the handler and cancelled it both.  One of
  them put its own in its place.  The other one, which has no
  binding, left that one in the table.
-/
def raced : Traffic Nat Nat where
  registry :=
    { table := Table.empty.insert listening ⟨12, 1⟩
      poisoned := false }
  calls :=
    [ (.subscribe listening 10, .done (.ok ()))
    , (.subscribe listening 11, .done (.error (.connection "down")))
    , (.subscribe listening 12, .done (.ok ())) ]
  log :=
    [ (0, .bind listening 10 (.ok 0))
    , (1, .cancel 10 (.ok ()))
    , (2, .cancel 10 (.ok ()))
    , (2, .bind listening 12 (.ok 1))
    , (1, .bind listening 11 (.error (.connection "down")))
    , (2, .unbind 0 (.ok ())) ]

theorem reachable_raced :
    Reachable settled raced := by
  have hStart : Reachable settled _ := .start
  have hFirst := hStart.step (.ask (.subscribe listening 11))
  have hSecond := hFirst.step (.ask (.subscribe listening 12))
  have hTaken := hSecond.step (.advance 1 rfl (.access _) nofun)
  have hTaken' := hTaken.step (.advance 2 rfl (.access _) nofun)
  have hCancelled :=
    hTaken'.step (.advance 1 rfl (.cancel _ _ (.ok ())) nofun)
  have hCancelled' :=
    hCancelled.step (.advance 2 rfl (.cancel _ _ (.ok ())) nofun)
  have hBound :=
    hCancelled'.step (.advance 2 rfl (.bind _ _ _ (.ok 1)) (by decide))
  have hFailed :=
    hBound.step
      (.advance 1 rfl (.bind _ _ _ (.error (.connection "down"))) nofun)
  have hReplaced := hFailed.step (.advance 2 rfl (.access _) nofun)
  have hKept := hReplaced.step (.advance 1 rfl (.access _) nofun)
  have hReturned :=
    hKept.step (.advance 2 rfl (.unbind _ _ (.ok ())) nofun)
  exact hReturned

theorem ownHandlers_raced :
    raced.OwnHandlers := by
  have hNumbered :
      ∀ (n : Nat) (key : Key) (handler : Nat) (call : Call Nat Nat),
        raced.calls[n]? = some (.subscribe key handler, call) →
        handler = 10 + n := by
    intro n key handler call hAt
    rcases n with _ | _ | _ | n
    · cases hAt
      rfl
    · cases hAt
      rfl
    · cases hAt
      rfl
    · exact absurd hAt nofun
  intro i j key key' handler call call' hAt hAt'
  have hFirst := hNumbered i key handler call hAt
  have hSecond := hNumbered j key' handler call' hAt'
  omega

/-
  The handler that stays was not cancelled.  The one that left
  was, before its binding was given up.
-/
theorem raced_cancelled_before_left :
    Reachable start settled ∧ Reachable settled raced ∧
    raced.OwnHandlers ∧ raced.registry.poisoned = false ∧
    raced.Quiet ∧
    raced.registry.table.get? listening = some ⟨12, 1⟩ ∧
    ¬ raced.CancelledWell 12 ∧
    settled.registry.table.get? listening = some ⟨10, 0⟩ ∧
    raced.GivenUp 0 ∧ raced.Cancelled 10 := by
  have hQuiet : raced.Quiet := by simp [Quiet, raced]
  have hGivenUp : raced.GivenUp 0 := Or.inl (by decide)
  rcases cancelled_before_left reachable_settled reachable_raced
      ownHandlers_raced rfl with
    ⟨hStays, hLeft⟩
  exact
    ⟨reachable_settled, reachable_raced, ownHandlers_raced, rfl,
      hQuiet, rfl, hStays hQuiet listening ⟨12, 1⟩ rfl, rfl,
      hGivenUp, (hLeft listening ⟨10, 0⟩ rfl).2 hGivenUp⟩

end Left

end Traffic

end Courier.Registration
