import Courier.Proofs.Registration.Cancellation
import Courier.Proofs.Registration.Sightings

/-
  This file says how subscriptions leave the table when one
  handler may be passed to any number of calls.

  A call that subscribes tells what it found in its way by the
  handler alone.  If the subscription that it found has left,
  and the same handler was put in anew meanwhile, the call
  takes the new subscription for the old one.  This is the only
  way in which a subscription leaves without its handler being
  cancelled for it.

  Key definitions include:
    * `Call.Pursues`
    * `Call.Leaves`

  Main statements:
    * `Call.leaves_goes`
    * `Traffic.Reachable.leaving_or_cancelled`
    * `Traffic.OwnHandlers.not_inWay_of_installed`
    * `Traffic.left_after_cancel`
-/

namespace Courier.Registration

variable {H B : Type}

namespace Call

------------------------------------------------------------
-- Calls and their requests
------------------------------------------------------------

/- What a call is about to do is what it was asked for. -/
def Pursues
    (request : Request H) : Call H B → Prop
  | accessing (.find key handler) => request = .subscribe key handler
  | accessing (.install key handler _ _) =>
      request = .subscribe key handler
  | accessing (.retract key _ _) =>
      ∃ handler, request = .subscribe key handler
  | accessing (.remove key) => request = .unsubscribe key
  | accessing .drain => request = .clear
  | cancelling _ (.bind key handler) => request = .subscribe key handler
  | binding key handler _ => request = .subscribe key handler
  | _ => True

theorem pursues_start
    (request : Request H) :
    (start request : Call H B).Pursues request := by
  cases request with
  | subscribe key handler =>
      simp only [start, checked]
      split
      · exact trivial
      · exact rfl
  | unsubscribe key =>
      simp only [start, checked]
      split
      · exact trivial
      · exact rfl
  | clear => exact rfl

theorem pursues_giveUp
    (request : Request H)
    (drained : List (Subscription H B)) :
    (giveUp drained).Pursues request := by
  cases drained with
  | nil => exact trivial
  | cons s rest => exact trivial

section Steps

variable [DecidableEq H]
variable {r r' : Registry H B}
variable {a : Access H B}
variable {c c' : Call H B}
variable {request : Request H}

theorem Pursues.accessed
    (hAccessed : Accessed r a c r')
    (hPursues : (accessing a).Pursues request) :
    c.Pursues request := by
  cases hAccessed with
  | free hFree => exact hPursues
  | taken hTaken => exact hPursues
  | refused a hPoisoned => cases a <;> exact trivial
  | @replaced key handler b old s hTaken =>
      unfold replaced
      split
      · exact trivial
      · exact trivial
  | drained => exact pursues_giveUp request _
  | _ => exact trivial

/- A call goes on with what it was asked for. -/
theorem Pursues.goes
    {happening : Option (Happening H B)}
    (hPursues : c.Pursues request)
    (hGoes : c.Goes r happening c' r') :
    c'.Pursues request := by
  cases hGoes with
  | access a => exact Pursues.accessed (Call.accessed a r) hPursues
  | cancel handler next outcome =>
      cases next with
      | bind key new =>
          rcases outcome with detail | ⟨⟩
          · exact trivial
          · exact hPursues
      | _ => exact trivial
  | bind key handler old outcome =>
      cases outcome with
      | ok b => exact hPursues
      | error fault =>
          cases old with
          | none => exact trivial
          | some h => exact ⟨handler, hPursues⟩
  | unbind b next outcome =>
      cases next with
      | answer result => exact trivial
      | report cancelled =>
          rcases cancelled with fault | ⟨⟩
          · exact trivial
          · exact trivial
      | goOn rest => exact pursues_giveUp request rest

------------------------------------------------------------
-- Steps by which a subscription leaves
------------------------------------------------------------

/-
  A subscription leaves by a step of a call.  The arguments are
  what the call was asked for, where it stood and where it
  stands, and what its key has now.
-/
inductive Leaves
    (key : Key)
    (v : Subscription H B) :
    Request H → Call H B → Call H B → Option (Subscription H B) →
      Prop where
  /- Another one is put in for its key. -/
  | replaced
      {handler : H}
      {b : B}
      {old : Option H} :
      Leaves key v (.subscribe key handler)
        (.accessing (.install key handler b old))
        (.replaced old v) (some ⟨handler, b⟩)
  /- A call that subscribes has no binding, and will fail. -/
  | retracted
      {handler : H}
      {fault : Fault} :
      Leaves key v (.subscribe key handler)
        (.accessing (.retract key v.handler fault))
        (.unbinding v.binding (.answer (.error fault))) none
  | removed :
      Leaves key v (.unsubscribe key) (.accessing (.remove key))
        (.cancelling v.handler (.unbindRemoved v.binding)) none
  | cleared
      {drained : List (Subscription H B)}
      (hDrained : v ∈ drained) :
      Leaves key v .clear (.accessing .drain) (.giveUp drained) none

variable {key : Key}
variable {v : Subscription H B}

theorem leaves_accessed
    (hAccessed : Accessed r a c r')
    (hPursues : (accessing a).Pursues request)
    (hThere : r.table.get? key = some v)
    (hLeft : r'.table.get? key ≠ some v) :
    Leaves key v request (accessing a) c (r'.table.get? key) := by
  cases hAccessed with
  | @added other handler b old hFree =>
      rw [Table.get?_insert] at hLeft
      split_ifs at hLeft with hKey
      · rw [hKey, hThere] at hFree
        exact absurd hFree nofun
      · exact absurd hThere hLeft
  | @replaced other handler b old s hTaken =>
      rw [Table.get?_insert] at hLeft ⊢
      split_ifs at hLeft with hKey
      · subst hKey
        rw [hThere] at hTaken
        cases hTaken
        cases hPursues
        rw [if_pos rfl]
        exact .replaced
      · exact absurd hThere hLeft
  | @retracted other fault s hTaken =>
      rw [Table.get?_erase] at hLeft ⊢
      split_ifs at hLeft with hKey
      · subst hKey
        rw [hThere] at hTaken
        cases hTaken
        rcases hPursues with ⟨handler, rfl⟩
        rw [if_pos rfl]
        exact .retracted
      · exact absurd hThere hLeft
  | @removed other s hTaken =>
      rw [Table.get?_erase] at hLeft ⊢
      split_ifs at hLeft with hKey
      · subst hKey
        rw [hThere] at hTaken
        cases hTaken
        cases hPursues
        rw [if_pos rfl]
        exact .removed
      · exact absurd hThere hLeft
  | drained =>
      cases hPursues
      have hEntry := (r.table.mem_entries_iff key v).mpr hThere
      exact .cleared (List.mem_map.mpr ⟨(key, v), hEntry, rfl⟩)
  | _ => exact absurd hThere hLeft

/- A subscription leaves by an access of one of four kinds. -/
theorem leaves_goes
    {happening : Option (Happening H B)}
    (hGoes : c.Goes r happening c' r')
    (hPursues : c.Pursues request)
    (hThere : r.table.get? key = some v)
    (hLeft : r'.table.get? key ≠ some v) :
    Leaves key v request c c' (r'.table.get? key) := by
  cases hGoes with
  | access a => exact leaves_accessed (accessed a r) hPursues hThere hLeft
  | _ => exact absurd hThere hLeft

/- A call that subscribes and fails has no handler left to cancel. -/
theorem Leaves.leaving_of_retract
    {other : Key}
    {old : H}
    {fault : Fault}
    {now : Option (Subscription H B)}
    (hLeaves :
      Leaves key v request (.accessing (.retract other old fault)) c now) :
    c.leaving = [] := by
  cases hLeaves with
  | retracted => rfl

end Steps

end Call

namespace Traffic

------------------------------------------------------------
-- Departures
------------------------------------------------------------

section Departures

variable [DecidableEq H]
variable {installed later s s' : Traffic H B}
variable {i : Nat}
variable {request : Request H}
variable {key : Key}
variable {v : Subscription H B}

/- Calls do what they were asked for. -/
theorem Reachable.pursues
    (hReachable : Reachable Traffic.start s)
    {call : Call H B}
    (hAt : s.calls[i]? = some (request, call)) :
    call.Pursues request := by
  induction hReachable generalizing i request call with
  | start => exact absurd hAt nofun
  | step hEarlier hStep ih =>
      cases hStep with
      | ask request' =>
          rcases Pool.joined_cases hAt with hOld | ⟨-, hSelf⟩
          · exact ih hOld
          · cases hSelf
            exact Call.pursues_start request
      | advance j hAt' hGoes hNew =>
          rcases Pool.stepped_cases hAt with ⟨-, hSelf⟩ | ⟨-, hOther⟩
          · cases hSelf
            exact (ih hAt').goes hGoes
          · exact ih hOther
      | poison => exact ih hAt
      | reorder hReordered => exact ih hAt

/-
  A subscription leaves by the step of a call, which has yet to
  cancel the handler then, unless it had it in its way.
-/
theorem Step.departs
    (hStep : Step s s')
    (hPursues :
      ∀ {i : Nat} {request : Request H} {call : Call H B},
        s.calls[i]? = some (request, call) → call.Pursues request)
    (hThere : s.registry.table.get? key = some v)
    (hLeft : s'.registry.table.get? key ≠ some v) :
    ∃ (i : Nat) (request : Request H) (call call' : Call H B),
      s.calls[i]? = some (request, call) ∧
        s'.calls[i]? = some (request, call') ∧
        Call.Leaves key v request call call'
          (s'.registry.table.get? key) ∧
        (v ∈ call'.leaving ∨
          call.replacing? = some (key, v.handler)) := by
  cases hStep with
  | ask request => exact absurd hThere hLeft
  | @advance i request call call' r happening hAt hGoes hNew =>
      have hLength := (List.getElem?_eq_some_iff.mp hAt).1
      refine ⟨i, request, call, call', hAt,
        List.getElem?_set_self hLength,
        Call.leaves_goes hGoes (hPursues hAt) hThere hLeft, ?_⟩
      exact (Call.stays_or_leaves hGoes hThere).resolve_left hLeft
  | poison => exact absurd hThere hLeft
  | reorder hReordered =>
      rw [Table.get?_eq_of_reordered hReordered.1] at hLeft
      exact absurd hThere hLeft

/- A call cancels the handlers of what it took out. -/
theorem Reachable.leaving_or_cancelled
    (hLater : Reachable s s')
    {call : Call H B}
    (hAt : s.calls[i]? = some (request, call))
    (hLeaving : v ∈ call.leaving) :
    (∃ call',
      s'.calls[i]? = some (request, call') ∧ v ∈ call'.leaving) ∨
      ∃ outcome, (i, .cancel v.handler outcome) ∈ s.since s' := by
  induction hLater with
  | start => exact Or.inl ⟨call, hAt, hLeaving⟩
  | @step t t' hEarlier hStep ih =>
      rcases ih with ⟨c, hAt', hLeaving'⟩ | ⟨outcome, hLog⟩
      · have hLength := (List.getElem?_eq_some_iff.mp hAt').1
        cases hStep with
        | ask request' =>
            exact Or.inl ⟨c,
              (List.getElem?_append_left hLength).trans hAt', hLeaving'⟩
        | @advance j _ _ call' _ _ hAt'' hGoes hNew =>
            by_cases hSame : j = i
            · subst hSame
              rw [hAt'] at hAt''
              cases hAt''
              rcases Call.leaving_stays hGoes hLeaving' with
                hStill | ⟨outcome, rfl⟩
              · exact Or.inl ⟨call', List.getElem?_set_self hLength, hStill⟩
              · exact Or.inr ⟨outcome, mem_since_advance hEarlier j _⟩
            · exact Or.inl ⟨c,
                (List.getElem?_set_ne hSame).trans hAt', hLeaving'⟩
        | poison => exact Or.inl ⟨c, hAt', hLeaving'⟩
        | reorder hReordered => exact Or.inl ⟨c, hAt', hLeaving'⟩
      · have hMore :=
          since_subset_of_later s (Reachable.start.step hStep)
        exact Or.inr ⟨outcome, hMore hLog⟩

/-
  Where each call subscribes a handler of its own, no call has
  the handler in its way when a subscription is put in.
-/
theorem OwnHandlers.not_inWay_of_installed
    (hReachable : Reachable start s)
    (hStep : Step s s')
    (hOwn : s'.OwnHandlers)
    (hBefore : s.registry.table.get? key ≠ some v)
    (hThere : s'.registry.table.get? key = some v) :
    ¬ s'.InWay i key v.handler := by
  have hTraced := hReachable.traced kept_start traced_start
  have hOwn' := hOwn.before hStep
  cases hStep with
  | ask request => exact absurd hThere hBefore
  | @advance j request call call' r happening hAt hGoes hNew =>
      have hUnplaced :=
        (Call.get?_goes hGoes hThere).resolve_left hBefore
      have hNone : ¬ s.Brought key v.handler :=
        hOwn'.not_brought hTraced hAt
          (Call.incoming?_of_unplaced? hUnplaced)
      rintro ⟨request', c, hAt', hInWay⟩
      rcases Pool.stepped_cases hAt' with ⟨-, hSelf⟩ | ⟨-, hOther⟩
      · cases hSelf
        rcases hInWay with hFound | hReplacing
        · rcases Call.found?_goes hGoes hFound with ⟨_, _, rfl, _⟩
          exact absurd hUnplaced nofun
        · cases hGoes with
          | access a =>
              rw [Call.replacing?_accessed (Call.accessed a s.registry)]
                at hReplacing
              exact absurd hReplacing nofun
          | _ => exact absurd hUnplaced nofun
      · have hMember := List.mem_of_getElem? hOther
        rcases hInWay with hFound | hReplacing
        · exact hNone (hTraced.found hMember hFound)
        · exact hNone (hTraced.replacing hMember hReplacing).1
  | poison => exact absurd hThere hBefore
  | reorder hReordered =>
      rw [Table.get?_eq_of_reordered hReordered.1] at hThere
      exact absurd hThere hBefore

/-
  In whatever order calls take their steps on a registry,
  however callbacks come out, whenever the lock is left poisoned,
  and to however many calls a handler is passed: a subscription
  that is in the table at one time and no longer later
    * left by one step of one call, which puts in another one
      for its key, gives up the key or all keys as it was asked
      to, or subscribes and fails;
    * unless the call had the same handler in its way under the
      key at the first time already, a call that subscribes and
      fails had found this very subscription since and cancelled
      its handler well, and any call has cancelled the handler
      since, or is about to.
  When a subscription was just put in, its handler is in the way
  of a call already only if it was there before, and left.
-/
theorem left_after_cancel
    (hInstalled : Reachable start installed)
    (hThere : installed.registry.table.get? key = some v)
    (hLater : Reachable installed later)
    (hGone : later.registry.table.get? key ≠ some v) :
    ∃ (s s' : Traffic H B) (i : Nat) (request : Request H)
        (call call' : Call H B),
      (Reachable installed s ∧ Step s s' ∧ Reachable s' later) ∧
      s.registry.table.get? key = some v ∧
      s.calls[i]? = some (request, call) ∧
      s'.calls[i]? = some (request, call') ∧
      Call.Leaves key v request call call'
        (s'.registry.table.get? key) ∧
      (installed.InWay i key v.handler ∨
        ((∀ fault, call = .accessing (.retract key v.handler fault) →
            CancelledBy installed s i key v) ∧
          ((∃ outcome,
              (i, .cancel v.handler outcome) ∈ installed.since later) ∨
            ∃ call'',
              later.calls[i]? = some (request, call'') ∧
                v ∈ call''.leaving))) := by
  have hKept := hInstalled.kept kept_start
  rcases hLater.exists_departure hThere hGone with
    ⟨s, s', hBefore, hStep, hAfter, hStill, hLeft⟩
  rcases hStep.departs (hInstalled.trans hBefore).pursues hStill hLeft with
    ⟨i, request, call, call', hAt, hAt', hLeaves, hHow⟩
  refine ⟨s, s', i, request, call, call', ⟨hBefore, hStep, hAfter⟩,
    hStill, hAt, hAt', hLeaves, ?_⟩
  rcases hHow with hLeaving | hReplacing
  · -- the call took it out and goes on to cancel the handler
    refine Or.inr ⟨?_, ?_⟩
    · rintro fault rfl
      rw [hLeaves.leaving_of_retract] at hLeaving
      exact absurd hLeaving List.not_mem_nil
    · rcases hAfter.leaving_or_cancelled hAt' hLeaving with
        hYet | ⟨outcome, hLog⟩
      · exact Or.inr hYet
      · have hSince :=
          since_subset_of_earlier (hBefore.step hStep) later hLog
        exact Or.inl ⟨outcome, hSince⟩
  · -- the call had cancelled a handler to take it out
    have hWatched := hBefore.watched hKept hThere hStill
    rcases hWatched.replacing hAt hReplacing with hStale | hCancelled
    · exact Or.inl hStale
    · have hMore :=
        since_subset_of_later installed
          ((Reachable.start.step hStep).trans hAfter)
      exact Or.inr
        ⟨fun _ _ => hCancelled, Or.inl ⟨_, hMore hCancelled.mem_since⟩⟩

/-
  The handler of a settled subscription was passed to a second
  call for its key.  The call cancelled it and had no binding.
-/
def withdrawn : Traffic Nat Nat where
  registry :=
    { table := Table.empty
      poisoned := false }
  calls :=
    [ (.subscribe listening 10, .done (.ok ()))
    , (.subscribe listening 10, .done (.error (.connection "down"))) ]
  log :=
    [ (0, .bind listening 10 (.ok 0))
    , (1, .cancel 10 (.ok ()))
    , (1, .bind listening 10 (.error (.connection "down")))
    , (1, .unbind 0 (.ok ())) ]

theorem reachable_withdrawn :
    Reachable settled withdrawn := by
  have hStart : Reachable settled _ := .start
  have hAsked := hStart.step (.ask (.subscribe listening 10))
  have hTaken := hAsked.step (.advance 1 rfl (.access _) nofun)
  have hCancelled :=
    hTaken.step (.advance 1 rfl (.cancel _ _ (.ok ())) nofun)
  have hFailed :=
    hCancelled.step
      (.advance 1 rfl (.bind _ _ _ (.error (.connection "down"))) nofun)
  have hRetracted := hFailed.step (.advance 1 rfl (.access _) nofun)
  have hReturned :=
    hRetracted.step (.advance 1 rfl (.unbind _ _ (.ok ())) nofun)
  exact hReturned

/- It left, and its handler was cancelled since. -/
theorem withdrawn_after_cancel :
    Reachable start settled ∧
    settled.registry.table.get? listening = some ⟨10, 0⟩ ∧
    Reachable settled withdrawn ∧
    withdrawn.registry.table.get? listening ≠ some ⟨10, 0⟩ ∧
    ∃ i outcome, (i, .cancel 10 outcome) ∈ settled.since withdrawn := by
  have hGone :
      withdrawn.registry.table.get? listening ≠ some ⟨10, 0⟩ := by
    decide
  have hQuiet : withdrawn.Quiet := by simp [Quiet, withdrawn]
  refine ⟨reachable_settled, rfl, reachable_withdrawn, hGone, ?_⟩
  rcases left_after_cancel reachable_settled rfl reachable_withdrawn
      hGone with
    ⟨_, _, i, _, _, _, _, _, _, _, _, hStale | ⟨_, hHow⟩⟩
  · -- no call had anything in its way when the handler was settled
    rcases hStale with ⟨request, call, hAt, hInWay⟩
    have hDone : settled.Quiet := by simp [Quiet, settled]
    rcases hDone _ (List.mem_of_getElem? hAt) with ⟨result, hResult⟩
    simp only at hResult
    subst hResult
    rcases hInWay with hFound | hReplacing
    · cases hFound
    · cases hReplacing
  · rcases hHow with ⟨outcome, hLog⟩ | ⟨call, hAt, hLeaving⟩
    · exact ⟨i, outcome, hLog⟩
    · rw [(hQuiet.emptyHanded (List.mem_of_getElem? hAt)).2.2] at hLeaving
      exact absurd hLeaving List.not_mem_nil

------------------------------------------------------------
-- A handler that is put in anew behind a call
------------------------------------------------------------

/-
  A call cancelled the handler that it found and makes its
  binding.  Meanwhile the subscription was given up, and the
  same handler was put in anew.
-/
def revived : Traffic Nat Nat where
  registry :=
    { table := Table.empty.insert listening ⟨10, 1⟩
      poisoned := false }
  calls :=
    [ (.subscribe listening 10, .done (.ok ()))
    , (.subscribe listening 11, .binding listening 11 (some 10))
    , (.unsubscribe listening, .done (.ok ()))
    , (.subscribe listening 10, .done (.ok ())) ]
  log :=
    [ (0, .bind listening 10 (.ok 0))
    , (1, .cancel 10 (.ok ()))
    , (2, .cancel 10 (.ok ()))
    , (2, .unbind 0 (.ok ()))
    , (3, .bind listening 10 (.ok 1)) ]

theorem reachable_revived :
    Reachable settled revived := by
  have hStart : Reachable settled _ := .start
  have hAsked := hStart.step (.ask (.subscribe listening 11))
  have hTaken := hAsked.step (.advance 1 rfl (.access _) nofun)
  have hCancelled :=
    hTaken.step (.advance 1 rfl (.cancel _ _ (.ok ())) nofun)
  have hAsked' := hCancelled.step (.ask (.unsubscribe listening))
  have hRemoved := hAsked'.step (.advance 2 rfl (.access _) nofun)
  have hCancelled' :=
    hRemoved.step (.advance 2 rfl (.cancel _ _ (.ok ())) nofun)
  have hGivenUp :=
    hCancelled'.step (.advance 2 rfl (.unbind _ _ (.ok ())) nofun)
  have hAgain := hGivenUp.step (.ask (.subscribe listening 10))
  have hFree := hAgain.step (.advance 3 rfl (.access _) nofun)
  have hBound :=
    hFree.step (.advance 3 rfl (.bind _ _ _ (.ok 1)) (by decide))
  have hAdded := hBound.step (.advance 3 rfl (.access _) nofun)
  exact hAdded

/- The call has no binding, and takes the new subscription out. -/
def robbed : Traffic Nat Nat where
  registry :=
    { table := Table.empty
      poisoned := false }
  calls :=
    [ (.subscribe listening 10, .done (.ok ()))
    , (.subscribe listening 11, .done (.error (.connection "down")))
    , (.unsubscribe listening, .done (.ok ()))
    , (.subscribe listening 10, .done (.ok ())) ]
  log := revived.log ++
    [ (1, .bind listening 11 (.error (.connection "down")))
    , (1, .unbind 1 (.ok ())) ]

theorem reachable_robbed :
    Reachable revived robbed := by
  have hStart : Reachable revived _ := .start
  have hFailed :=
    hStart.step
      (.advance 1 rfl (.bind _ _ _ (.error (.connection "down"))) nofun)
  have hRetracted := hFailed.step (.advance 1 rfl (.access _) nofun)
  have hReturned :=
    hRetracted.step (.advance 1 rfl (.unbind _ _ (.ok ())) nofun)
  exact hReturned

/-
  A subscription is lost behind its handler's back.  The call
  that put it in returned without a fault, nobody put another
  one in or gave it up since, and its handler was not cancelled
  since.
-/
theorem revived_lost :
    Reachable start revived ∧
    revived.calls[3]? = some (.subscribe listening 10, .done (.ok ())) ∧
    revived.registry.table.get? listening = some ⟨10, 1⟩ ∧
    Reachable revived robbed ∧ robbed.Quiet ∧
    robbed.calls =
      revived.calls.set 1
        (.subscribe listening 11, .done (.error (.connection "down"))) ∧
    robbed.registry.table.get? listening = none ∧
    ∀ i outcome, (i, .cancel 10 outcome) ∉ revived.since robbed := by
  refine ⟨reachable_settled.trans reachable_revived, rfl, rfl,
    reachable_robbed, by simp [Quiet, robbed], rfl, rfl, ?_⟩
  intro i outcome
  simp [since, robbed]

end Departures

end Traffic

end Courier.Registration
