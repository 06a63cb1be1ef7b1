import Courier.Proofs.Registration.Traffic

/-
  This file says which handlers a call on a registry has in
  hand at each of its stages: the one that it has yet to put
  in, the one that it found in its way, the one that it
  cancelled to replace it, and those that it took out of the
  table and has yet to cancel.

  Key definitions include:
    * `Call.incoming?`, `Call.found?`, `Call.replacing?`
    * `Call.leaving`, `Call.releasing?`

  Main statements:
    * `Call.found?_goes`, `Call.replacing?_goes`
    * `Call.leaving_goes`, `Call.releasing?_goes`
    * `Call.stays_or_leaves`
-/

namespace Courier.Registration

variable {H B : Type}

namespace Call

------------------------------------------------------------
-- Handlers in hand
------------------------------------------------------------

/- The handler that a call has yet to put in. -/
def incoming? : Call H B → Option (Key × H)
  | accessing (.find key handler) => some (key, handler)
  | accessing (.install key handler _ _) => some (key, handler)
  | cancelling _ (.bind key handler) => some (key, handler)
  | binding key handler _ => some (key, handler)
  | _ => none

/- The handler that a call found under its key, and is cancelling. -/
def found? : Call H B → Option (Key × H)
  | cancelling handler (.bind key _) => some (key, handler)
  | _ => none

/- The handler that a call cancelled, to take it out of the table. -/
def replacing? : Call H B → Option (Key × H)
  | accessing (.install key _ _ old) => old.map (key, ·)
  | accessing (.retract key old _) => some (key, old)
  | binding key _ old => old.map (key, ·)
  | _ => none

/- The subscriptions that a call took out, and has yet to cancel. -/
def leaving : Call H B → List (Subscription H B)
  | cancelling handler (.unbindReplaced b) => [⟨handler, b⟩]
  | cancelling handler (.unbindRemoved b) => [⟨handler, b⟩]
  | cancelling handler (.unbindDrained b rest) => ⟨handler, b⟩ :: rest
  | unbinding _ (.goOn rest) => rest
  | _ => []

/- The binding that a call is giving up. -/
def releasing? : Call H B → Option B
  | unbinding b _ => some b
  | _ => none

/- A call puts no handler in, and has none in its way. -/
structure Outgoing (c : Call H B) : Prop where
  incoming : c.incoming? = none
  found : c.found? = none
  replacing : c.replacing? = none

theorem outgoing_refused
    (a : Access H B) :
    a.refused.Outgoing := by
  cases a with
  | find key handler => exact ⟨rfl, rfl, rfl⟩
  | install key handler b old => exact ⟨rfl, rfl, rfl⟩
  | retract key old fault => exact ⟨rfl, rfl, rfl⟩
  | remove key => exact ⟨rfl, rfl, rfl⟩
  | drain => exact ⟨rfl, rfl, rfl⟩

theorem outgoing_giveUp
    (drained : List (Subscription H B)) :
    (giveUp drained).Outgoing := by
  cases drained with
  | nil => exact ⟨rfl, rfl, rfl⟩
  | cons s rest => exact ⟨rfl, rfl, rfl⟩

theorem outgoing_replaced
    [DecidableEq H]
    (old : Option H)
    (s : Subscription H B) :
    (replaced old s).Outgoing := by
  unfold replaced
  split
  · exact ⟨rfl, rfl, rfl⟩
  · exact ⟨rfl, rfl, rfl⟩

theorem outgoing_unbound
    (next : AfterUnbind H B)
    (outcome : Except Fault Unit) :
    (unbound next outcome).Outgoing := by
  cases next with
  | answer result => exact ⟨rfl, rfl, rfl⟩
  | report cancelled =>
      rcases cancelled with fault | ⟨⟩
      · exact ⟨rfl, rfl, rfl⟩
      · exact ⟨rfl, rfl, rfl⟩
  | goOn rest => exact outgoing_giveUp rest

/- A call that gives subscriptions up has yet to cancel them all. -/
theorem leaving_giveUp
    (drained : List (Subscription H B)) :
    (giveUp drained).leaving = drained := by
  cases drained with
  | nil => rfl
  | cons s rest => rfl

/- A call whose access was refused has none to cancel. -/
theorem leaving_refused
    (a : Access H B) :
    a.refused.leaving = [] := by
  cases a with
  | find key handler => rfl
  | install key handler b old => rfl
  | retract key old fault => rfl
  | remove key => rfl
  | drain => rfl

/- A call that gives subscriptions up cancels before it releases. -/
theorem releasing?_giveUp
    (drained : List (Subscription H B)) :
    (giveUp drained).releasing? = none := by
  cases drained with
  | nil => rfl
  | cons s rest => rfl

/- A call goes on after a binding was given up. -/
theorem leaving_unbound
    (b : B)
    (next : AfterUnbind H B)
    (outcome : Except Fault Unit) :
    (unbound next outcome).leaving = (unbinding b next).leaving := by
  cases next with
  | answer result => rfl
  | report cancelled =>
      rcases cancelled with fault | ⟨⟩
      · rfl
      · rfl
  | goOn rest => exact leaving_giveUp rest

theorem releasing?_unbound
    (next : AfterUnbind H B)
    (outcome : Except Fault Unit) :
    (unbound next outcome).releasing? = none := by
  cases next with
  | answer result => rfl
  | report cancelled =>
      rcases cancelled with fault | ⟨⟩
      · rfl
      · rfl
  | goOn rest => exact releasing?_giveUp rest

/- A call goes on after a binding was made, or failed to be. -/
theorem inHand_bound
    (key : Key)
    (handler : H)
    (old : Option H)
    (outcome : Except Fault B) :
    (bound key handler old outcome).found? = none ∧
      (bound key handler old outcome).leaving = [] ∧
      (bound key handler old outcome).releasing? = none := by
  cases outcome with
  | ok b => exact ⟨rfl, rfl, rfl⟩
  | error fault =>
      cases old with
      | none => exact ⟨rfl, rfl, rfl⟩
      | some h => exact ⟨rfl, rfl, rfl⟩

/- What a call is to put in is its own handler. -/
theorem incoming?_of_unplaced?
    {c : Call H B}
    {key : Key}
    {v : Subscription H B}
    (hUnplaced : c.unplaced? = some (key, v)) :
    c.incoming? = some (key, v.handler) := by
  unfold unplaced? at hUnplaced
  split at hUnplaced
  · cases hUnplaced
    rfl
  · exact absurd hUnplaced nofun

/- A call that starts has yet to put in what it was asked to. -/
theorem request_of_incoming?_start
    {request : Request H}
    {key : Key}
    {handler : H}
    (hIncoming :
      (start request : Call H B).incoming? = some (key, handler)) :
    request = .subscribe key handler := by
  cases request with
  | subscribe k h =>
      cases hCheck : k.check with
      | error fault => simp [start, checked, hCheck, incoming?] at hIncoming
      | ok value =>
          simp only [start, checked, hCheck] at hIncoming
          cases hIncoming
          rfl
  | unsubscribe k =>
      cases hCheck : k.check with
      | error fault => simp [start, checked, hCheck, incoming?] at hIncoming
      | ok value => simp [start, checked, hCheck, incoming?] at hIncoming
  | clear => simp [start, incoming?] at hIncoming

/- A call that starts has no other handler in hand. -/
theorem inHand_start
    (request : Request H) :
    (start request : Call H B).found? = none ∧
      (start request : Call H B).replacing? = none ∧
      (start request : Call H B).leaving = [] ∧
      (start request : Call H B).releasing? = none := by
  cases request with
  | subscribe k h =>
      simp only [start, checked]
      split
      · exact ⟨rfl, rfl, rfl, rfl⟩
      · exact ⟨rfl, rfl, rfl, rfl⟩
  | unsubscribe k =>
      simp only [start, checked]
      split
      · exact ⟨rfl, rfl, rfl, rfl⟩
      · exact ⟨rfl, rfl, rfl, rfl⟩
  | clear => exact ⟨rfl, rfl, rfl, rfl⟩

------------------------------------------------------------
-- Accesses
------------------------------------------------------------

section Accesses

variable [DecidableEq H]
variable {r r' : Registry H B}
variable {a : Access H B}
variable {c : Call H B}

/- An access leaves a call with no other handler to put in. -/
theorem incoming?_accessed
    (hAccessed : Accessed r a c r')
    {x : Key × H}
    (hIncoming : c.incoming? = some x) :
    (accessing a).incoming? = some x := by
  cases hAccessed with
  | free hFree => exact hIncoming
  | taken hTaken => exact hIncoming
  | refused a hPoisoned =>
      rw [(outgoing_refused a).incoming] at hIncoming
      exact absurd hIncoming nofun
  | @replaced key handler b old s hTaken =>
      rw [(outgoing_replaced old s).incoming] at hIncoming
      exact absurd hIncoming nofun
  | drained =>
      rw [(outgoing_giveUp _).incoming] at hIncoming
      exact absurd hIncoming nofun
  | _ => exact absurd hIncoming nofun

/- A handler that an access put in is not put in again. -/
theorem incoming?_accessed_of_unplaced?
    (hAccessed : Accessed r a c r')
    {x : Key × Subscription H B}
    (hUnplaced : (accessing a).unplaced? = some x) :
    c.incoming? = none := by
  cases hAccessed with
  | refused a hPoisoned => exact (outgoing_refused a).incoming
  | added hFree => rfl
  | @replaced key handler b old s hTaken =>
      exact (outgoing_replaced old s).incoming
  | _ => exact absurd hUnplaced nofun

/- What an access finds in the way is what it looks for in the table. -/
theorem found?_accessed
    (hAccessed : Accessed r a c r')
    {key : Key}
    {handler : H}
    (hFound : c.found? = some (key, handler)) :
    ∃ new v,
      a = .find key new ∧ c = .cancelling handler (.bind key new) ∧
        r.table.get? key = some v ∧ v.handler = handler := by
  cases hAccessed with
  | @taken k new s hTaken =>
      cases hFound
      exact ⟨new, s, rfl, rfl, hTaken, rfl⟩
  | refused a hPoisoned =>
      rw [(outgoing_refused a).found] at hFound
      exact absurd hFound nofun
  | @replaced k h b old s hTaken =>
      rw [(outgoing_replaced old s).found] at hFound
      exact absurd hFound nofun
  | drained =>
      rw [(outgoing_giveUp _).found] at hFound
      exact absurd hFound nofun
  | _ => exact absurd hFound nofun

/- After an access no handler waits to be replaced. -/
theorem replacing?_accessed
    (hAccessed : Accessed r a c r') :
    c.replacing? = none := by
  cases hAccessed with
  | refused a hPoisoned => exact (outgoing_refused a).replacing
  | @replaced k h b old s hTaken => exact (outgoing_replaced old s).replacing
  | drained => exact (outgoing_giveUp _).replacing
  | _ => rfl

/-
  What leaves by an access was in the table.  Its key is free
  now, or has what was to be put in.
-/
theorem leaving_accessed
    (hAccessed : Accessed r a c r')
    {v : Subscription H B}
    (hLeaving : v ∈ c.leaving) :
    ∃ key,
      r.table.get? key = some v ∧
      ∀ w, r'.table.get? key = some w →
        (accessing a).unplaced? = some (key, w) := by
  cases hAccessed with
  | refused a hPoisoned =>
      rw [leaving_refused] at hLeaving
      exact absurd hLeaving List.not_mem_nil
  | @replaced key handler b old s hTaken =>
      unfold replaced at hLeaving
      split at hLeaving
      · exact absurd hLeaving List.not_mem_nil
      · rw [List.mem_singleton.mp hLeaving]
        refine ⟨key, hTaken, ?_⟩
        intro w hFound
        rw [Table.get?_insert, if_pos rfl] at hFound
        cases hFound
        rfl
  | @removed key s hTaken =>
      rw [List.mem_singleton.mp hLeaving]
      refine ⟨key, hTaken, ?_⟩
      intro w hFound
      rw [Table.get?_erase, if_pos rfl] at hFound
      exact absurd hFound nofun
  | drained =>
      rw [leaving_giveUp] at hLeaving
      rcases List.mem_map.mp hLeaving with ⟨⟨key, s⟩, hEntry, rfl⟩
      exact ⟨key, (r.table.mem_entries_iff key s).mp hEntry, nofun⟩
  | _ => exact absurd hLeaving List.not_mem_nil

/-
  A binding that is given up right after an access belonged to
  a handler that the call had cancelled.
-/
theorem releasing?_accessed
    (hAccessed : Accessed r a c r')
    (hUsable : r.poisoned = false)
    {b : B}
    (hReleasing : c.releasing? = some b) :
    ∃ key v,
      r.table.get? key = some v ∧ v.binding = b ∧
      (accessing a).replacing? = some (key, v.handler) := by
  cases hAccessed with
  | refused a hPoisoned =>
      rw [hUsable] at hPoisoned
      exact absurd hPoisoned nofun
  | @replaced key handler b' old s hTaken =>
      unfold replaced at hReleasing
      split at hReleasing
      · rename_i hSame
        cases hReleasing
        refine ⟨key, s, hTaken, rfl, ?_⟩
        rw [hSame]
        rfl
      · exact absurd hReleasing nofun
  | @retracted key fault s hTaken =>
      cases hReleasing
      exact ⟨key, s, hTaken, rfl, rfl⟩
  | drained =>
      rw [releasing?_giveUp] at hReleasing
      exact absurd hReleasing nofun
  | _ => exact absurd hReleasing nofun

/-
  A subscription stays in the table, or it leaves, or its
  handler was cancelled to be replaced.
-/
theorem stays_or_leaves_accessed
    (hAccessed : Accessed r a c r')
    {key : Key}
    {v : Subscription H B}
    (hThere : r.table.get? key = some v) :
    r'.table.get? key = some v ∨ v ∈ c.leaving ∨
      (accessing a).replacing? = some (key, v.handler) := by
  cases hAccessed with
  | refused a hPoisoned => exact Or.inl hThere
  | free hFree => exact Or.inl hThere
  | taken hTaken => exact Or.inl hThere
  | kept hOther => exact Or.inl hThere
  | missing hFree => exact Or.inl hThere
  | @added other handler b old hFree =>
      left
      rw [Table.get?_insert, if_neg]
      · exact hThere
      · rintro rfl
        rw [hThere] at hFree
        exact absurd hFree nofun
  | @replaced other handler b old s hTaken =>
      by_cases hKey : other = key
      · subst hKey
        right
        rw [hThere] at hTaken
        cases hTaken
        by_cases hSame : old = some v.handler
        · right
          rw [hSame]
          rfl
        · left
          rw [replaced, if_neg hSame]
          exact List.mem_singleton_self _
      · left
        rw [Table.get?_insert, if_neg hKey]
        exact hThere
  | @retracted other fault s hTaken =>
      by_cases hKey : other = key
      · subst hKey
        rw [hThere] at hTaken
        cases hTaken
        exact Or.inr (Or.inr rfl)
      · left
        rw [Table.get?_erase, if_neg hKey]
        exact hThere
  | @removed other s hTaken =>
      by_cases hKey : other = key
      · subst hKey
        rw [hThere] at hTaken
        cases hTaken
        exact Or.inr (Or.inl (List.mem_singleton_self _))
      · left
        rw [Table.get?_erase, if_neg hKey]
        exact hThere
  | drained =>
      right
      left
      rw [leaving_giveUp]
      have hEntry := (r.table.mem_entries_iff key v).mpr hThere
      exact List.mem_map.mpr ⟨(key, v), hEntry, rfl⟩

/-
  A handler that was to be replaced is gone after the access,
  unless it is the one that was to be put in.
-/
theorem replaced_accessed
    (hAccessed : Accessed r a c r')
    (hUsable : r.poisoned = false)
    {key : Key}
    {v : Subscription H B}
    (hReplacing : (accessing a).replacing? = some (key, v.handler))
    (hThere : r'.table.get? key = some v) :
    (accessing a).unplaced? = some (key, v) := by
  have hInstalled :
      ∀ {k : Key} {h : H} {b : B} {old : Option H},
        old.map (k, ·) = some (key, v.handler) →
        (r.table.insert k ⟨h, b⟩).get? key = some v →
        (accessing (.install k h b old)).unplaced? = some (key, v) := by
    intro k h b old hOld hGet
    rcases old with _ | old
    · exact absurd hOld nofun
    · cases hOld
      rw [Table.get?_insert, if_pos rfl] at hGet
      cases hGet
      rfl
  cases hAccessed with
  | refused a hPoisoned =>
      rw [hUsable] at hPoisoned
      exact absurd hPoisoned nofun
  | added hFree => exact hInstalled hReplacing hThere
  | replaced hTaken => exact hInstalled hReplacing hThere
  | @retracted other fault s hTaken =>
      have hKey : other = key :=
        congrArg Prod.fst (Option.some.inj hReplacing)
      rw [Table.get?_erase, if_pos hKey] at hThere
      exact absurd hThere nofun
  | @kept other old fault hOther =>
      cases hReplacing
      exact absurd rfl (hOther v hThere)
  | _ => exact absurd hReplacing nofun

end Accesses

------------------------------------------------------------
-- Steps
------------------------------------------------------------

section Steps

variable [DecidableEq H]
variable {r r' : Registry H B}
variable {c c' : Call H B}
variable {happening : Option (Happening H B)}

/- No step gives a call another handler to put in. -/
theorem incoming?_goes
    (hGoes : c.Goes r happening c' r')
    {x : Key × H}
    (hIncoming : c'.incoming? = some x) :
    c.incoming? = some x := by
  cases hGoes with
  | access a => exact incoming?_accessed (accessed a r) hIncoming
  | cancel handler next outcome =>
      cases next with
      | bind key new =>
          rcases outcome with detail | ⟨⟩
          · exact absurd hIncoming nofun
          · exact hIncoming
      | _ => exact absurd hIncoming nofun
  | bind key handler old outcome =>
      cases outcome with
      | ok b => exact hIncoming
      | error fault =>
          cases old with
          | none => exact absurd hIncoming nofun
          | some h => exact absurd hIncoming nofun
  | unbind b next outcome =>
      rw [(outgoing_unbound next outcome).incoming] at hIncoming
      exact absurd hIncoming nofun

/- A handler that was put in is not put in again. -/
theorem incoming?_goes_of_unplaced?
    (hGoes : c.Goes r happening c' r')
    {x : Key × Subscription H B}
    (hUnplaced : c.unplaced? = some x) :
    c'.incoming? = none := by
  cases hGoes with
  | access a =>
      exact incoming?_accessed_of_unplaced? (accessed a r) hUnplaced
  | _ => exact absurd hUnplaced nofun

/- What a call is to put in is in the table after its step. -/
theorem get?_goes_of_unplaced?
    (hGoes : c.Goes r happening c' r')
    (hUsable : r.poisoned = false)
    {key : Key}
    {v : Subscription H B}
    (hUnplaced : c.unplaced? = some (key, v)) :
    r'.table.get? key = some v := by
  cases hGoes with
  | access a =>
      exact get?_accessed_of_unplaced (accessed a r) hUsable hUnplaced
  | _ => exact absurd hUnplaced nofun

/- A binding that was made is to be put in next. -/
theorem unplaced?_goes_of_bound
    (hGoes : c.Goes r happening c' r')
    {key : Key}
    {v : Subscription H B}
    (hMade :
      happening = some (.bind key v.handler (.ok v.binding))) :
    c'.unplaced? = some (key, v) := by
  cases hGoes with
  | bind k h old outcome =>
      cases hMade
      rfl
  | _ => exact absurd hMade nofun

/- A call finds what is in its way by looking for it in the table. -/
theorem found?_goes
    (hGoes : c.Goes r happening c' r')
    {key : Key}
    {handler : H}
    (hFound : c'.found? = some (key, handler)) :
    ∃ new v,
      c = .accessing (.find key new) ∧
        c' = .cancelling handler (.bind key new) ∧
        r.table.get? key = some v ∧ v.handler = handler := by
  cases hGoes with
  | access a =>
      rcases found?_accessed (accessed a r) hFound with
        ⟨new, v, rfl, hCancelling, hThere⟩
      exact ⟨new, v, rfl, hCancelling, hThere⟩
  | cancel h next outcome =>
      cases next with
      | bind k new =>
          rcases outcome with detail | ⟨⟩
          · exact absurd hFound nofun
          · exact absurd hFound nofun
      | _ => exact absurd hFound nofun
  | bind k h old outcome =>
      rw [(inHand_bound k h old outcome).1] at hFound
      exact absurd hFound nofun
  | unbind b next outcome =>
      rw [(outgoing_unbound next outcome).found] at hFound
      exact absurd hFound nofun

/-
  A handler that a call is to replace was to be replaced
  before, or was found in the way and cancelled just then.
-/
theorem replacing?_goes
    (hGoes : c.Goes r happening c' r')
    {key : Key}
    {handler : H}
    (hReplacing : c'.replacing? = some (key, handler)) :
    c.replacing? = some (key, handler) ∨
      (c.found? = some (key, handler) ∧
        happening = some (.cancel handler (.ok ()))) := by
  cases hGoes with
  | access a =>
      rw [replacing?_accessed (accessed a r)] at hReplacing
      exact absurd hReplacing nofun
  | cancel h next outcome =>
      cases next with
      | bind k new =>
          rcases outcome with detail | ⟨⟩
          · exact absurd hReplacing nofun
          · cases hReplacing
            exact Or.inr ⟨rfl, rfl⟩
      | _ => exact absurd hReplacing nofun
  | bind k h old outcome =>
      left
      cases outcome with
      | ok b => exact hReplacing
      | error fault =>
          cases old with
          | none => exact absurd hReplacing nofun
          | some h => exact hReplacing
  | unbind b next outcome =>
      rw [(outgoing_unbound next outcome).replacing] at hReplacing
      exact absurd hReplacing nofun

/-
  A handler that is to be replaced stays so until it is gone,
  or the one that was to be put in is in its place.
-/
theorem replaced_goes
    (hGoes : c.Goes r happening c' r')
    (hUsable : r.poisoned = false)
    {key : Key}
    {v : Subscription H B}
    (hReplacing : c.replacing? = some (key, v.handler))
    (hThere : r'.table.get? key = some v) :
    c'.replacing? = some (key, v.handler) ∨
      c.unplaced? = some (key, v) := by
  cases hGoes with
  | access a =>
      exact Or.inr
        (replaced_accessed (accessed a r) hUsable hReplacing hThere)
  | cancel h next outcome => exact absurd hReplacing nofun
  | bind k h old outcome =>
      left
      cases outcome with
      | ok b => exact hReplacing
      | error fault =>
          cases old with
          | none => exact absurd hReplacing nofun
          | some h => exact hReplacing
  | unbind b next outcome => exact absurd hReplacing nofun

/-
  What leaves was leaving before, or was in the table, where
  its key is free now or has what was to be put in.
-/
theorem leaving_goes
    (hGoes : c.Goes r happening c' r')
    {v : Subscription H B}
    (hLeaving : v ∈ c'.leaving) :
    v ∈ c.leaving ∨
      ∃ key,
        r.table.get? key = some v ∧
        ∀ w, r'.table.get? key = some w →
          c.unplaced? = some (key, w) := by
  cases hGoes with
  | access a => exact Or.inr (leaving_accessed (accessed a r) hLeaving)
  | cancel h next outcome =>
      left
      cases next with
      | bind k new =>
          rcases outcome with detail | ⟨⟩
          · exact absurd hLeaving List.not_mem_nil
          · exact absurd hLeaving List.not_mem_nil
      | unbindDrained b rest => exact List.mem_cons_of_mem _ hLeaving
      | _ => exact absurd hLeaving List.not_mem_nil
  | bind k h old outcome =>
      rw [(inHand_bound k h old outcome).2.1] at hLeaving
      exact absurd hLeaving List.not_mem_nil
  | unbind b next outcome =>
      rw [leaving_unbound b] at hLeaving
      exact Or.inl hLeaving

/- What is leaving goes on leaving until its handler is cancelled. -/
theorem leaving_stays
    (hGoes : c.Goes r happening c' r')
    {v : Subscription H B}
    (hLeaving : v ∈ c.leaving) :
    v ∈ c'.leaving ∨
      ∃ outcome, happening = some (.cancel v.handler outcome) := by
  cases hGoes with
  | access a => exact absurd hLeaving List.not_mem_nil
  | cancel h next outcome =>
      cases next with
      | bind k new => exact absurd hLeaving List.not_mem_nil
      | unbindReplaced b =>
          rw [List.mem_singleton.mp hLeaving]
          exact Or.inr ⟨outcome, rfl⟩
      | unbindRemoved b =>
          rw [List.mem_singleton.mp hLeaving]
          exact Or.inr ⟨outcome, rfl⟩
      | unbindDrained b rest =>
          rcases List.mem_cons.mp hLeaving with rfl | hRest
          · exact Or.inr ⟨outcome, rfl⟩
          · exact Or.inl hRest
  | bind k h old outcome => exact absurd hLeaving List.not_mem_nil
  | unbind b next outcome =>
      rw [leaving_unbound b]
      exact Or.inl hLeaving

/-
  A handler that is cancelled was leaving, or it was found in
  the way and is to be replaced if cancelling went well.
-/
theorem cancelled_goes
    (hGoes : c.Goes r happening c' r')
    {handler : H}
    {outcome : Except String Unit}
    (hCancel : happening = some (.cancel handler outcome)) :
    (∃ v ∈ c.leaving, v.handler = handler) ∨
      ∃ key,
        c.found? = some (key, handler) ∧
        (outcome = .ok () →
          c'.replacing? = some (key, handler)) := by
  cases hGoes with
  | cancel h next outcome' =>
      cases hCancel
      cases next with
      | bind k new =>
          right
          refine ⟨k, rfl, ?_⟩
          rintro rfl
          rfl
      | unbindReplaced b => exact Or.inl ⟨_, .head _, rfl⟩
      | unbindRemoved b => exact Or.inl ⟨_, .head _, rfl⟩
      | unbindDrained b rest => exact Or.inl ⟨_, .head _, rfl⟩
  | _ => exact absurd hCancel nofun

/-
  A subscription stays in the table, or it leaves, or its
  handler was cancelled to be replaced.
-/
theorem stays_or_leaves
    (hGoes : c.Goes r happening c' r')
    {key : Key}
    {v : Subscription H B}
    (hThere : r.table.get? key = some v) :
    r'.table.get? key = some v ∨ v ∈ c'.leaving ∨
      c.replacing? = some (key, v.handler) := by
  cases hGoes with
  | access a => exact stays_or_leaves_accessed (accessed a r) hThere
  | _ => exact Or.inl hThere

/-
  A binding is given up right after its handler was cancelled,
  or it belonged to a handler that was to be replaced.
-/
theorem releasing?_goes
    (hGoes : c.Goes r happening c' r')
    (hUsable : r.poisoned = false)
    {b : B}
    (hReleasing : c'.releasing? = some b) :
    (∃ v ∈ c.leaving,
      v.binding = b ∧
      ∃ outcome, happening = some (.cancel v.handler outcome)) ∨
    ∃ key v,
      r.table.get? key = some v ∧ v.binding = b ∧
      c.replacing? = some (key, v.handler) := by
  cases hGoes with
  | access a =>
      exact Or.inr
        (releasing?_accessed (accessed a r) hUsable hReleasing)
  | cancel h next outcome =>
      left
      cases next with
      | bind k new =>
          rcases outcome with detail | ⟨⟩
          · exact absurd hReleasing nofun
          · exact absurd hReleasing nofun
      | unbindReplaced b' =>
          cases hReleasing
          exact ⟨_, .head _, rfl, outcome, rfl⟩
      | unbindRemoved b' =>
          cases hReleasing
          exact ⟨_, .head _, rfl, outcome, rfl⟩
      | unbindDrained b' rest =>
          cases hReleasing
          exact ⟨_, .head _, rfl, outcome, rfl⟩
  | bind k h old outcome =>
      rw [(inHand_bound k h old outcome).2.2] at hReleasing
      exact absurd hReleasing nofun
  | unbind b' next outcome =>
      rw [releasing?_unbound] at hReleasing
      exact absurd hReleasing nofun

/- A binding that was given up is the one that the call had in hand. -/
theorem releasing?_of_unbound
    (hGoes : c.Goes r happening c' r')
    {b : B}
    (hUnbound : b ∈ happening.bind Happening.unbound?) :
    c.releasing? = some b := by
  cases hGoes with
  | unbind b' next outcome => exact hUnbound
  | access a => exact absurd hUnbound nofun
  | cancel h next outcome => exact absurd hUnbound nofun
  | bind k h old outcome => exact absurd hUnbound nofun

end Steps

end Call

end Courier.Registration
