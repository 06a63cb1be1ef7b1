import Courier.Proofs.Transport.Bindings

/-
  This file shows that every subscription of a broker in
  memory was made by a call, and has a queue of its own that
  leads to its handler.  This holds for the subscriptions that
  there are, and for those that there were when a message was
  taken.

  A call that subscribes a handler without a fault has made a
  registration.

  Key definitions include:
    * `Session.Queued`
    * `Session.Registered`
    * `Session.Makes`

  Main statements:
    * `Session.Registered.advance`
    * `Session.Registered.step`
-/

namespace Courier

open Registration

namespace Session

variable {H ω : Type}

------------------------------------------------------------
-- Registrations
------------------------------------------------------------

/- A subscription has a queue that leads to its handler. -/
def Queued
    (s : Session H ω)
    (v : Subscription H Nat) : Prop :=
  ∃ q, s.queues[v.binding]? = some q ∧ q.handler = v.handler

/- A subscription was made by some call. -/
def Made
    (s : Session H ω)
    (key : Key)
    (v : Subscription H Nat) : Prop :=
  ∃ i, (i, key, v) ∈ s.made

/- What holds of the registrations of a session. -/
structure Registered (s : Session H ω) : Prop where
  /- Each subscription was made. -/
  present :
    ∀ {key v}, s.client.registry.table.get? key = some v → s.Made key v
  /- So was each one that was there when a message was taken. -/
  past :
    ∀ {p}, p ∈ s.taken →
      ∀ {key v}, p.table.get? key = some v → s.Made key v
  /- No two of them were made with one binding. -/
  unique :
    ∀ {key key' v v'},
      s.Made key v →
      s.Made key' v' →
      v.binding = v'.binding →
      key = key' ∧ v = v'
  /- Each of them has a queue. -/
  queued : ∀ {key v}, s.Made key v → s.Queued v
  /- What a call is to put in has a queue, and is new. -/
  unplaced :
    ∀ {c}, c ∈ s.calls →
      ∀ {key v}, c.2.unplaced? = some (key, v) →
        s.Queued v ∧
        ∀ {key' v'}, s.Made key' v' → v'.binding ≠ v.binding
  /- A call that has subscribed a handler has put it in. -/
  answered :
    ∀ {i : Nat} {key handler call},
      s.calls[i]? = some (.subscribe key handler, call) →
      call.Subscribes key handler
        (∃ n, (i, key, ⟨handler, n⟩) ∈ s.made)

/- Nothing is registered on a broker that nobody has used. -/
theorem registered_start
    (root : String)
    (recording : Bool)
    (world : ω) :
    Registered (start root recording world : Session H ω) where
  present := nofun
  past := nofun
  unique := by
    intro key key' v v' hMade
    rcases hMade with ⟨i, hMember⟩
    exact absurd hMember List.not_mem_nil
  queued := by
    intro key v hMade
    rcases hMade with ⟨i, hMember⟩
    exact absurd hMember List.not_mem_nil
  unplaced := nofun
  answered := nofun

/- A binding that has a queue is a number below that of the next one. -/
theorem Queued.lt
    {s : Session H ω}
    {v : Subscription H Nat}
    (hQueued : s.Queued v) :
    v.binding < s.queues.length := by
  rcases hQueued with ⟨q, hAt, -⟩
  exact (List.getElem?_eq_some_iff.mp hAt).1

/- A subscription keeps its queue. -/
theorem Queued.keeps
    {s s' : Session H ω}
    {v : Subscription H Nat}
    (hQueued : s.Queued v)
    (hKeeps : LocalBroker.Keeps (·.handler) s.queues s'.queues) :
    s'.Queued v := by
  rcases hQueued with ⟨q, hAt, hHandler⟩
  rcases hKeeps _ q hAt with ⟨q', hAt', hSame⟩
  exact ⟨q', hAt', hSame.trans hHandler⟩

------------------------------------------------------------
-- Steps that make no registration
------------------------------------------------------------

/-
  No registration is made, and no call goes on.  Messages that
  are taken meanwhile find the subscriptions of that time.
-/
theorem Registered.of_same
    {s s' : Session H ω}
    (hRegistered : s.Registered)
    (hTable :
      ∀ key,
        s'.client.registry.table.get? key =
          s.client.registry.table.get? key)
    (hMade : s'.made = s.made)
    (hCalls : s'.calls = s.calls)
    (hTaken :
      ∀ p ∈ s'.taken,
        p ∈ s.taken ∨ p.table = s.client.registry.table)
    (hKeeps : LocalBroker.Keeps (·.handler) s.queues s'.queues) :
    s'.Registered := by
  have hMade' : ∀ {key v}, s'.Made key v ↔ s.Made key v := by
    intro key v
    unfold Made
    rw [hMade]
  constructor
  · intro key v hFound
    rw [hTable] at hFound
    exact hMade'.mpr (hRegistered.present hFound)
  · intro p hMember key v hFound
    rw [hMade']
    rcases hTaken p hMember with hOld | hNew
    · exact hRegistered.past hOld hFound
    · rw [hNew] at hFound
      exact hRegistered.present hFound
  · intro key key' v v' hFirst hSecond
    exact hRegistered.unique (hMade'.mp hFirst) (hMade'.mp hSecond)
  · intro key v hMade
    exact (hRegistered.queued (hMade'.mp hMade)).keeps hKeeps
  · intro c hMember key v hUnplaced
    rw [hCalls] at hMember
    rcases hRegistered.unplaced hMember hUnplaced with ⟨hQueued, hNew⟩
    exact ⟨hQueued.keeps hKeeps, fun hMade => hNew (hMade'.mp hMade)⟩
  · intro i key handler call hAt
    rw [hCalls] at hAt
    rw [hMade]
    exact hRegistered.answered hAt

/- A call is made. -/
theorem Registered.ask
    {s : Session H ω}
    (hRegistered : s.Registered)
    (request : Request H) :
    Registered
      { s with calls := s.calls ++ [(request, .asking request)] } := by
  constructor
  · exact hRegistered.present
  · exact hRegistered.past
  · exact hRegistered.unique
  · exact hRegistered.queued
  · intro c hMember key v hUnplaced
    rcases List.mem_append.mp hMember with hOld | hNew
    · exact hRegistered.unplaced hOld hUnplaced
    · have hNone : c.2.unplaced? = none := by
        rw [List.mem_singleton.mp hNew]
        exact Client.Call.unplaced?_eq_none_of_owned
          (Client.Call.owned_asking request)
      rw [hNone] at hUnplaced
      exact absurd hUnplaced nofun
  · intro i key handler call hAt
    rcases Pool.joined_cases hAt with hOld | ⟨-, hNew⟩
    · exact hRegistered.answered hOld
    · cases hNew
      exact rfl

------------------------------------------------------------
-- Steps that may make one
------------------------------------------------------------

/- The registrations after a step of a call. -/
structure Makes
    (s s' : Session H ω)
    (i : Nat)
    (call : Client.Call H Nat) : Prop where
  /- What the call was to put in is registered. -/
  placed :
    ∀ {key v},
      call.unplaced? = some (key, v) → (i, key, v) ∈ s'.made
  /- Nothing that was registered is forgotten. -/
  earlier : ∀ {x}, x ∈ s.made → x ∈ s'.made
  /- Nothing else is registered. -/
  made :
    ∀ {key v},
      s'.Made key v → s.Made key v ∨ call.unplaced? = some (key, v)

theorem Makes.kept
    {s s' : Session H ω}
    {i : Nat}
    {call : Client.Call H Nat}
    (hMakes : Makes s s' i call)
    {key : Key}
    {v : Subscription H Nat}
    (hMade : s.Made key v) :
    s'.Made key v := by
  rcases hMade with ⟨j, hOld⟩
  exact ⟨j, hMakes.earlier hOld⟩

section Makes

variable {s s' : Session H ω}
variable {i : Nat}
variable {request : Request H}
variable {call call' : Client.Call H Nat}
variable (hRegistered : s.Registered)
variable (hAt : s.calls[i]? = some (request, call))
variable (hMakes : Makes s s' i call)

include hRegistered hAt hMakes

/- What is registered now had a queue before. -/
theorem Registered.queued_before
    {key : Key}
    {v : Subscription H Nat}
    (hMade : s'.Made key v) :
    s.Queued v := by
  rcases hMakes.made hMade with hOld | hUnplaced
  · exact hRegistered.queued hOld
  · exact (hRegistered.unplaced (List.mem_of_getElem? hAt) hUnplaced).1

/- No binding is registered once more. -/
theorem Registered.unique_advance
    {key key' : Key}
    {v v' : Subscription H Nat}
    (hFirst : s'.Made key v)
    (hSecond : s'.Made key' v')
    (hSame : v.binding = v'.binding) :
    key = key' ∧ v = v' := by
  have hMember := List.mem_of_getElem? hAt
  rcases hMakes.made hFirst with hOld | hNew
  · rcases hMakes.made hSecond with hOld' | hNew'
    · exact hRegistered.unique hOld hOld' hSame
    · exact absurd hSame ((hRegistered.unplaced hMember hNew').2 hOld)
  · rcases hMakes.made hSecond with hOld' | hNew'
    · exact absurd hSame.symm
        ((hRegistered.unplaced hMember hNew).2 hOld')
    · rw [hNew] at hNew'
      cases hNew'
      exact ⟨rfl, rfl⟩

variable [DecidableEq H]

/- What any call is to put in after the step is new. -/
theorem Registered.unplaced_advance
    (hUsable : s.client.registry.poisoned = false)
    (hOwned : s'.Owned)
    (hAdvance : call.Advance s.client call' s'.client)
    (hCalls : s'.calls = s.calls.set i (request, call'))
    {c : Request H × Client.Call H Nat}
    (hMember : c ∈ s'.calls)
    {key : Key}
    {v : Subscription H Nat}
    (hUnplaced : c.2.unplaced? = some (key, v)) :
    s'.Queued v ∧
      ∀ {key' v'}, s'.Made key' v' → v'.binding ≠ v.binding := by
  have hNow := hMember
  rw [hCalls] at hNow
  rcases List.mem_or_eq_of_mem_set hNow with hOther | hSelf
  · refine ⟨?_, ?_⟩
    · exact (hRegistered.unplaced hOther hUnplaced).1.keeps
        hAdvance.keeps_handlers
    · intro key' v' hMade hSame
      rcases hMakes.made hMade with hOld | hNew
      · exact (hRegistered.unplaced hOther hUnplaced).2 hOld hSame
      · -- Both would be in use, one in the registry, one by a call.
        have hFound := hAdvance.get?_of_unplaced hUsable hNew
        exact hOwned.ne_of_mem
          (mem_bindings_of_get?_eq_some hFound) hMember
          (Client.Call.mem_owned_of_unplaced? hUnplaced) hSame
  · subst hSelf
    rcases hAdvance.unplaced?_after hUnplaced with ⟨hLast, hQueue⟩
    refine ⟨hQueue, ?_⟩
    intro key' v' hMade hSame
    have hLess := (hRegistered.queued_before hAt hMakes hMade).lt
    rw [hSame, hLast] at hLess
    exact Nat.lt_irrefl _ hLess

/- A call that has subscribed a handler has put it in. -/
theorem Registered.answered_advance
    {handlers : Handlers H ω}
    (hStep :
      call.step LocalBroker.transport handlers.watched s.client =
        (call', s'.client))
    (hCalls : s'.calls = s.calls.set i (request, call'))
    {j : Nat}
    {key : Key}
    {handler : H}
    {other : Client.Call H Nat}
    (hNow : s'.calls[j]? = some (.subscribe key handler, other)) :
    other.Subscribes key handler
      (∃ n, (j, key, ⟨handler, n⟩) ∈ s'.made) := by
  rw [hCalls] at hNow
  rcases Pool.stepped_cases hNow with ⟨rfl, hSelf⟩ | ⟨-, hOther⟩
  · cases hSelf
    have hNext :=
      Client.Call.Subscribes.step handlers hStep
        (hRegistered.answered hAt)
    refine hNext.mono ?_
    rintro (⟨n, hOld⟩ | ⟨n, hUnplaced⟩)
    · exact ⟨n, hMakes.earlier hOld⟩
    · exact ⟨n, hMakes.placed hUnplaced⟩
  · refine (hRegistered.answered hOther).mono ?_
    rintro ⟨n, hOld⟩
    exact ⟨n, hMakes.earlier hOld⟩

end Makes

variable [DecidableEq H]

/- What came to a registry is there now, and was not before. -/
theorem mem_arrivals
    {before after : Registry H Nat}
    {key : Key}
    {v : Subscription H Nat} :
    (key, v) ∈ before.arrivals after ↔
      after.table.get? key = some v ∧
        before.table.get? key ≠ some v := by
  unfold Registry.arrivals
  rw [List.mem_filter, Table.mem_entries_iff, decide_eq_true_iff]

/- What comes in a step is what the call was to put in. -/
theorem Registered.mem_arrivals_iff
    {s : Session H ω}
    (hRegistered : s.Registered)
    (hUsable : s.client.registry.poisoned = false)
    {i : Nat}
    {request : Request H}
    {call call' : Client.Call H Nat}
    {client' : LocalClient H (Watch H ω)}
    (hAt : s.calls[i]? = some (request, call))
    (hAdvance : call.Advance s.client call' client')
    {key : Key}
    {v : Subscription H Nat} :
    (key, v) ∈ s.client.registry.arrivals client'.registry ↔
      call.unplaced? = some (key, v) := by
  rw [mem_arrivals]
  constructor
  · rintro ⟨hFound, hNew⟩
    rcases hAdvance.get?_cases hFound with hOld | hUnplaced
    · exact absurd hOld hNew
    · exact hUnplaced
  · intro hUnplaced
    refine ⟨hAdvance.get?_of_unplaced hUsable hUnplaced, ?_⟩
    intro hOld
    have hMember := List.mem_of_getElem? hAt
    rcases hRegistered.unplaced hMember hUnplaced with ⟨-, hNew⟩
    exact hNew (hRegistered.present hOld) rfl

/- What comes in a step is registered for the call. -/
theorem Registered.makes
    {s s' : Session H ω}
    (hRegistered : s.Registered)
    (hUsable : s.client.registry.poisoned = false)
    {i : Nat}
    {request : Request H}
    {call call' : Client.Call H Nat}
    (hAt : s.calls[i]? = some (request, call))
    (hAdvance : call.Advance s.client call' s'.client)
    (hMade :
      s'.made =
        s.made ++
          (s.client.registry.arrivals s'.client.registry).map (i, ·)) :
    Makes s s' i call := by
  have hArrives :
      ∀ {key v},
        (key, v) ∈ s.client.registry.arrivals s'.client.registry ↔
          call.unplaced? = some (key, v) :=
    hRegistered.mem_arrivals_iff hUsable hAt hAdvance
  constructor
  · intro key v hUnplaced
    rw [hMade]
    exact List.mem_append_right _
      (List.mem_map_of_mem (hArrives.mpr hUnplaced))
  · intro x hOld
    rw [hMade]
    exact List.mem_append_left _ hOld
  · rintro key v ⟨j, hNow⟩
    rw [hMade] at hNow
    rcases List.mem_append.mp hNow with hOld | hNew
    · exact Or.inl ⟨j, hOld⟩
    · rcases List.mem_map.mp hNew with ⟨entry, hEntry, hSame⟩
      cases hSame
      exact Or.inr (hArrives.mp hEntry)

/- A call takes a step. -/
theorem Registered.advance
    {handlers : Handlers H ω}
    {s s' : Session H ω}
    (hRegistered : s.Registered)
    (hUsable : s.client.registry.poisoned = false)
    (hOwned : s'.Owned)
    {i : Nat}
    {request : Request H}
    {call call' : Client.Call H Nat}
    (hAt : s.calls[i]? = some (request, call))
    (hStep :
      call.step LocalBroker.transport handlers.watched s.client =
        (call', s'.client))
    (hCalls : s'.calls = s.calls.set i (request, call'))
    (hTaken : s'.taken = s.taken)
    (hMade :
      s'.made =
        s.made ++
          (s.client.registry.arrivals s'.client.registry).map (i, ·)) :
    s'.Registered := by
  have hAdvance := Client.Call.advance_of_step handlers hStep
  have hMakes := hRegistered.makes hUsable hAt hAdvance hMade
  constructor
  · -- present
    intro key v hFound
    rcases hAdvance.get?_cases hFound with hOld | hUnplaced
    · exact hMakes.kept (hRegistered.present hOld)
    · exact ⟨i, hMakes.placed hUnplaced⟩
  · -- past
    intro p hTakenBefore key v hFound
    rw [hTaken] at hTakenBefore
    exact hMakes.kept (hRegistered.past hTakenBefore hFound)
  · exact hRegistered.unique_advance hAt hMakes
  · -- queued
    intro key v hNow
    exact
      (hRegistered.queued_before hAt hMakes hNow).keeps
        hAdvance.keeps_handlers
  · exact
      hRegistered.unplaced_advance hAt hMakes hUsable hOwned hAdvance hCalls
  · exact hRegistered.answered_advance hAt hMakes hStep hCalls

/- All this holds after each step. -/
theorem Registered.step
    {handlers : Handlers H ω}
    {s s' : Session H ω}
    (hRegistered : s.Registered)
    (hUsable : s.client.registry.poisoned = false)
    (hOwned : s'.Owned)
    (hStep : Step handlers s s') :
    s'.Registered := by
  cases hStep with
  | ask request => exact hRegistered.ask request
  | advance i hAt hStep =>
      exact hRegistered.advance hUsable hOwned hAt hStep rfl rfl rfl
  | @publish topic m result client' hFits hPublish =>
      have hFrame := LocalBroker.publish_frame hUsable hPublish
      apply hRegistered.of_same
      · intro key
        rw [hFrame.1]
      · rfl
      · rfl
      · intro p hMember
        rcases List.mem_append.mp hMember with hOld | hNew
        · exact Or.inl hOld
        · rcases result with fault | ⟨⟩
          · exact absurd hNew List.not_mem_nil
          · rw [List.mem_singleton.mp hNew]
            exact Or.inr rfl
      · exact LocalBroker.keeps_publish hUsable hPublish
          fun octets q => (LocalBroker.Queue.push_frame octets q).1
  | setAvailable available =>
      exact hRegistered.of_same (fun _ => rfl) rfl rfl
        (fun _ => Or.inl) (LocalBroker.keeps_refl _ _)
  | setRefusal refusal =>
      exact hRegistered.of_same (fun _ => rfl) rfl rfl
        (fun _ => Or.inl) (LocalBroker.keeps_refl _ _)
  | @deliver n client' hDeliver =>
      subst hDeliver
      have hFrame :=
        LocalBroker.deliver_frame handlers.watched n s.client
      apply hRegistered.of_same
      · intro key
        rw [hFrame.1]
      · rfl
      · rfl
      · exact fun _ => Or.inl
      · exact LocalBroker.keeps_deliver handlers.watched n s.client
          fun q w =>
            (LocalBroker.Queue.deliver_frame handlers.watched q w).1
  | reorder hReordered =>
      exact hRegistered.of_same
        (Table.get?_eq_of_reordered hReordered.1) rfl rfl
        (fun _ => Or.inl) (LocalBroker.keeps_refl _ _)

end Session

end Courier
