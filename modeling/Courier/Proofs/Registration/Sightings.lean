import Courier.Proofs.Registration.Bindings
import Courier.Proofs.Registration.Handlers

/-
  This file says what calls find in their way on a registry
  where one handler may be passed to any number of calls.

  No binding is made twice, so a subscription that left never
  comes back.  From when it was put in until it leaves it is in
  the table all the time, and whoever finds its handler there
  under its key finds the subscription itself.

  Key definitions include:
    * `Traffic.since`
    * `Traffic.InWay`
    * `Traffic.Finds`, `Traffic.FoundBy`, `Traffic.CancelledBy`
    * `Traffic.Watched`

  Main statements:
    * `Traffic.Reachable.there_before`
    * `Traffic.Watched.step`, `Traffic.Reachable.watched`
-/

namespace Courier.Registration

variable {H B : Type}

namespace Traffic

------------------------------------------------------------
-- What happened since
------------------------------------------------------------

/- The callbacks that came to an end since an earlier time. -/
def since
    (earlier s : Traffic H B) : List (Nat × Happening H B) :=
  s.log.drop earlier.log.length

section Since

variable [DecidableEq H]
variable {earlier middle s s' : Traffic H B}

/- More has happened later. -/
theorem since_subset_of_later
    (earlier : Traffic H B)
    (hLater : Reachable s s') :
    earlier.since s ⊆ earlier.since s' :=
  (hLater.log_extends.drop _).subset

/- More has happened since an earlier time. -/
theorem since_subset_of_earlier
    (hEarlier : Reachable earlier middle)
    (s : Traffic H B) :
    middle.since s ⊆ earlier.since s :=
  List.drop_subset_drop_left _ hEarlier.log_extends.length_le

/- What happens by a step happened since. -/
theorem mem_since_advance
    (hEarlier : Reachable earlier s)
    (i : Nat)
    (x : Happening H B) :
    (i, x) ∈
      (s.log ++ [(i, x)]).drop earlier.log.length := by
  rw [List.drop_append_of_le_length hEarlier.log_extends.length_le]
  exact List.mem_append_right _ (List.mem_singleton_self _)

end Since

------------------------------------------------------------
-- Subscriptions that stay until they leave
------------------------------------------------------------

section Staying

variable [DecidableEq H]
variable {earlier later s s' : Traffic H B}
variable {key : Key}
variable {v : Subscription H B}

/- What is in the table, no call is about to put in. -/
omit [DecidableEq H] in
theorem Kept.not_unplaced
    (hKept : s.Kept)
    (hThere : s.registry.table.get? key = some v)
    {c : Request H × Call H B}
    (hMember : c ∈ s.calls) :
    c.2.unplaced? ≠ some (key, v) := by
  intro hUnplaced
  have hNodup :
      (s.registry.bindings + s.owned + (s.unbound : Multiset B)).Nodup := by
    rw [hKept.conserved]
    exact Multiset.coe_nodup.mpr hKept.nodup
  have hApart :=
    (Multiset.nodup_add.mp (Multiset.nodup_add.mp hNodup).1).2.2
  have hOwned :=
    Pool.mem_sum_map (f := fun c => c.2.owned) hMember
      (Call.mem_owned_of_unplaced? hUnplaced)
  exact Multiset.disjoint_left.mp hApart
    (mem_bindings_of_get?_eq_some hThere) hOwned

/- Nor will a call ever be. -/
theorem Reachable.not_unplaced
    (hLater : Reachable earlier s)
    (hKept : earlier.Kept)
    (hThere : earlier.registry.table.get? key = some v)
    {c : Request H × Call H B}
    (hMember : c ∈ s.calls) :
    c.2.unplaced? ≠ some (key, v) := by
  induction hLater generalizing c with
  | start => exact hKept.not_unplaced hThere hMember
  | step hEarlier hStep ih =>
      cases hStep with
      | ask request =>
          rcases List.mem_append.mp hMember with hOld | hNew
          · exact ih hOld
          · rw [List.mem_singleton.mp hNew, Call.unplaced?_start request]
            exact nofun
      | @advance i request call call' r happening hAt hGoes hNew =>
          rcases List.mem_or_eq_of_mem_set hMember with hOther | hSelf
          · exact ih hOther
          · intro hUnplaced
            subst hSelf
            -- its binding would have been made a second time
            have hMade := Call.unplaced?_goes hGoes hUnplaced
            rcases (hKept.present hThere).mono hEarlier.log_subset with
              ⟨j, hBound⟩
            refine hNew v.binding ?_ (mem_bound_iff.mpr ⟨j, _, _, hBound⟩)
            rw [hMade]
            rfl
      | poison => exact ih hMember
      | reorder hReordered => exact ih hMember

/- What was in the table and is there was there in between. -/
theorem Reachable.there_before
    (hLater : Reachable earlier s)
    (hKept : earlier.Kept)
    (hThere : earlier.registry.table.get? key = some v)
    (hStep : Step s s')
    (hStill : s'.registry.table.get? key = some v) :
    s.registry.table.get? key = some v := by
  cases hStep with
  | ask request => exact hStill
  | advance i hAt hGoes hNew =>
      rcases Call.get?_goes hGoes hStill with hBefore | hUnplaced
      · exact hBefore
      · exact absurd hUnplaced
          (hLater.not_unplaced hKept hThere (List.mem_of_getElem? hAt))
  | poison => exact hStill
  | reorder hReordered =>
      rw [Table.get?_eq_of_reordered hReordered.1] at hStill
      exact hStill

/- What is no longer in the table left it by some step. -/
theorem Reachable.exists_departure
    (hLater : Reachable earlier later)
    (hThere : earlier.registry.table.get? key = some v)
    (hGone : later.registry.table.get? key ≠ some v) :
    ∃ s s',
      Reachable earlier s ∧ Step s s' ∧ Reachable s' later ∧
        s.registry.table.get? key = some v ∧
        s'.registry.table.get? key ≠ some v := by
  induction hLater with
  | start => exact absurd hThere hGone
  | @step s s' hEarlier hStep ih =>
      by_cases hBefore : s.registry.table.get? key = some v
      · exact ⟨s, s', hEarlier, hStep, .start, hBefore, hGone⟩
      · rcases ih hBefore with ⟨t, t', hFirst, hOut, hRest, hStill, hLeft⟩
        exact ⟨t, t', hFirst, hOut, hRest.step hStep, hStill, hLeft⟩

end Staying

------------------------------------------------------------
-- Handlers that calls find in their way
------------------------------------------------------------

/- A call has a handler in its way, cancelled or not. -/
def InWay
    (s : Traffic H B)
    (i : Nat)
    (key : Key)
    (handler : H) : Prop :=
  ∃ request call,
    s.calls[i]? = some (request, call) ∧
      (call.found? = some (key, handler) ∨
        call.replacing? = some (key, handler))

section Finding

variable [DecidableEq H]

/- By its step a call finds a subscription in its way. -/
structure Finds
    (seen seen' : Traffic H B)
    (i : Nat)
    (key : Key)
    (v : Subscription H B) : Prop where
  step : Step seen seen'
  there : seen.registry.table.get? key = some v
  looks :
    ∃ request new,
      seen.calls[i]? = some (request, .accessing (.find key new)) ∧
        seen'.calls[i]? =
          some (request, .cancelling v.handler (.bind key new))

/- A call found a subscription in its way since an earlier time. -/
def FoundBy
    (earlier s : Traffic H B)
    (i : Nat)
    (key : Key)
    (v : Subscription H B) : Prop :=
  ∃ seen seen',
    Reachable earlier seen ∧ Finds seen seen' i key v ∧
      Reachable seen' s

/- It cancelled the handler for that, and cancelling went well. -/
def CancelledBy
    (earlier s : Traffic H B)
    (i : Nat)
    (key : Key)
    (v : Subscription H B) : Prop :=
  ∃ seen seen',
    Reachable earlier seen ∧ Finds seen seen' i key v ∧
      Reachable seen' s ∧
      (i, .cancel v.handler (.ok ())) ∈ seen'.since s

variable {earlier s s' : Traffic H B}
variable {i : Nat}
variable {key : Key}
variable {v : Subscription H B}

theorem FoundBy.step
    (hFound : FoundBy earlier s i key v)
    (hStep : Step s s') :
    FoundBy earlier s' i key v := by
  rcases hFound with ⟨seen, seen', hEarlier, hFinds, hLater⟩
  exact ⟨seen, seen', hEarlier, hFinds, hLater.step hStep⟩

theorem CancelledBy.step
    (hCancelled : CancelledBy earlier s i key v)
    (hStep : Step s s') :
    CancelledBy earlier s' i key v := by
  rcases hCancelled with ⟨seen, seen', hEarlier, hFinds, hLater, hLog⟩
  exact ⟨seen, seen', hEarlier, hFinds, hLater.step hStep,
    since_subset_of_later seen' (Reachable.start.step hStep) hLog⟩

/- What was cancelled so was cancelled since the earlier time. -/
theorem CancelledBy.mem_since
    (hCancelled : CancelledBy earlier s i key v) :
    (i, .cancel v.handler (.ok ())) ∈ earlier.since s := by
  rcases hCancelled with ⟨seen, seen', hEarlier, hFinds, _, hLog⟩
  exact since_subset_of_earlier (hEarlier.step hFinds.step) s hLog

/-
  How the handler of a subscription came to be in the way of
  calls: it was so at the earlier time already, or the call
  found the subscription itself since.
-/
structure Watched
    (earlier s : Traffic H B)
    (key : Key)
    (v : Subscription H B) : Prop where
  found :
    ∀ {i : Nat} {request call},
      s.calls[i]? = some (request, call) →
      call.found? = some (key, v.handler) →
      earlier.InWay i key v.handler ∨ FoundBy earlier s i key v
  replacing :
    ∀ {i : Nat} {request call},
      s.calls[i]? = some (request, call) →
      call.replacing? = some (key, v.handler) →
      earlier.InWay i key v.handler ∨ CancelledBy earlier s i key v

theorem watched_start
    (earlier : Traffic H B)
    (key : Key)
    (v : Subscription H B) :
    Watched earlier earlier key v where
  found := fun hAt hFound => Or.inl ⟨_, _, hAt, Or.inl hFound⟩
  replacing := fun hAt hReplacing => Or.inl ⟨_, _, hAt, Or.inr hReplacing⟩

/- A call takes a step while the subscription is in the table. -/
theorem Watched.advance
    (hWatched : Watched earlier s key v)
    (hEarlier : Reachable earlier s)
    (hThere : s.registry.table.get? key = some v)
    {request : Request H}
    {call call' : Call H B}
    {r : Registry H B}
    {happening : Option (Happening H B)}
    (hAt : s.calls[i]? = some (request, call))
    (hGoes : call.Goes s.registry happening call' r)
    (hNew : ∀ b ∈ happening.bind Happening.bound?, b ∉ s.bound) :
    Watched earlier
      { registry := r
        calls := s.calls.set i (request, call')
        log := s.log ++ happening.toList.map (i, ·) } key v := by
  have hStep := Step.advance i hAt hGoes hNew
  have hLength := (List.getElem?_eq_some_iff.mp hAt).1
  constructor
  · -- found
    intro j request' c hAt' hFound
    rcases Pool.stepped_cases hAt' with ⟨rfl, hSelf⟩ | ⟨-, hOther⟩
    · cases hSelf
      rcases Call.found?_goes hGoes hFound with
        ⟨new, _, rfl, rfl, _, _⟩
      have hFinds : Finds s _ j key v :=
        ⟨hStep, hThere, request, new, hAt,
          List.getElem?_set_self hLength⟩
      exact Or.inr ⟨s, _, hEarlier, hFinds, .start⟩
    · exact (hWatched.found hOther hFound).imp_right (·.step hStep)
  · -- replacing
    intro j request' c hAt' hReplacing
    rcases Pool.stepped_cases hAt' with ⟨rfl, hSelf⟩ | ⟨-, hOther⟩
    · cases hSelf
      rcases Call.replacing?_goes hGoes hReplacing with
        hBefore | ⟨hFound, rfl⟩
      · exact (hWatched.replacing hAt hBefore).imp_right (·.step hStep)
      · rcases hWatched.found hAt hFound with hStale | hFoundBy
        · exact Or.inl hStale
        · rcases hFoundBy with ⟨seen, seen', hBefore, hFinds, hLater⟩
          exact Or.inr ⟨seen, seen', hBefore, hFinds, hLater.step hStep,
            mem_since_advance hLater j _⟩
    · exact (hWatched.replacing hOther hReplacing).imp_right
        (·.step hStep)

/- So it stays when no other call has anything in its way. -/
theorem Watched.of_calls
    (hWatched : Watched earlier s key v)
    (hStep : Step s s')
    (hCalls :
      ∀ {i : Nat} {request : Request H} {call : Call H B},
        s'.calls[i]? = some (request, call) →
        s.calls[i]? = some (request, call) ∨
          (call.found? = none ∧ call.replacing? = none)) :
    Watched earlier s' key v := by
  constructor
  · intro i request call hAt hFound
    rcases hCalls hAt with hOld | ⟨hNone, -⟩
    · exact (hWatched.found hOld hFound).imp_right (·.step hStep)
    · rw [hNone] at hFound
      exact absurd hFound nofun
  · intro i request call hAt hReplacing
    rcases hCalls hAt with hOld | ⟨-, hNone⟩
    · exact (hWatched.replacing hOld hReplacing).imp_right (·.step hStep)
    · rw [hNone] at hReplacing
      exact absurd hReplacing nofun

theorem Watched.step
    (hWatched : Watched earlier s key v)
    (hEarlier : Reachable earlier s)
    (hThere : s.registry.table.get? key = some v)
    (hStep : Step s s') :
    Watched earlier s' key v := by
  have hStep' := hStep
  cases hStep with
  | ask request =>
      refine hWatched.of_calls hStep' fun hAt => ?_
      rcases Pool.joined_cases hAt with hOld | ⟨-, hSelf⟩
      · exact Or.inl hOld
      · cases hSelf
        have hEmpty := Call.inHand_start (B := B) request
        exact Or.inr ⟨hEmpty.1, hEmpty.2.1⟩
  | advance i hAt hGoes hNew =>
      exact hWatched.advance hEarlier hThere hAt hGoes hNew
  | poison => exact hWatched.of_calls hStep' Or.inl
  | reorder hReordered => exact hWatched.of_calls hStep' Or.inl

/- So it is as long as the subscription is in the table. -/
theorem Reachable.watched
    (hLater : Reachable earlier s)
    (hKept : earlier.Kept)
    (hThere : earlier.registry.table.get? key = some v)
    (hStill : s.registry.table.get? key = some v) :
    Watched earlier s key v := by
  induction hLater with
  | start => exact watched_start earlier key v
  | step hEarlier hStep ih =>
      have hBefore := hEarlier.there_before hKept hThere hStep hStill
      exact (ih hBefore).step hEarlier hBefore hStep

end Finding

end Traffic

end Courier.Registration
