import Courier.Proofs.Transport.Registrations

/-
  This file shows that a broker in memory delivers in order.
  What is passed to the handler of a registration is, at all
  times, a beginning of what was taken for it while it was
  there, and all of that once its queue has drained.

  Each queue carries what was sent to it.  What was sent to
  the queue of a registration is what was taken for it, as no
  other registration ever has that queue.

  Key definitions include:
    * `Session.sentTo`
    * `Session.Carried`
    * `Session.Sound`

  Main statements:
    * `Session.Carried.step`
    * `Session.sentTo_eq_expected`
    * `Session.delivered_in_order`
-/

namespace Courier

open Registration

namespace Session

variable {H ω : Type}

------------------------------------------------------------
-- What queues carry
------------------------------------------------------------

/- The messages that publications sent to a queue, in order. -/
def sentTo
    (s : Session H ω)
    (root : String)
    (n : Nat) : List Message :=
  s.taken.flatMap fun p =>
    List.replicate ((LocalBroker.targets root p).count n) p.message

/- Each queue carries what was sent to it. -/
structure Carried
    (handlers : Handlers H ω)
    (root : String)
    (s : Session H ω) : Prop where
  held :
    ∀ {n : Nat} {q},
      s.queues[n]? = some q →
      q.Carries handlers (s.handedTo n) (s.sentTo root n)
  /- Nothing goes through queues that nobody has made. -/
  fresh :
    ∀ {n},
      s.queues.length ≤ n →
      s.handedTo n = [] ∧ s.sentTo root n = []
  /- Nothing is passed to handlers but in deliveries. -/
  noted : s.client.state.world.seen = s.handed.map (·.2)

/- Nothing was carried on a broker that nobody has used. -/
theorem carried_start
    (handlers : Handlers H ω)
    (root : String)
    (recording : Bool)
    (world : ω) :
    Carried handlers root (start root recording world : Session H ω) where
  held := nofun
  fresh := fun _ => ⟨rfl, rfl⟩
  noted := rfl

/- A queue keeps what it carries, and nothing else happens. -/
theorem Carried.of_same
    {handlers : Handlers H ω}
    {root : String}
    {s s' : Session H ω}
    (hCarried : s.Carried handlers root)
    (hTaken : s'.taken = s.taken)
    (hHanded : s'.handed = s.handed)
    (hSeen :
      s'.client.state.world.seen = s.client.state.world.seen)
    (hLength : s.queues.length ≤ s'.queues.length)
    (hHeld :
      ∀ {n : Nat} {q},
        s'.queues[n]? = some q →
        q.Carries handlers (s.handedTo n) (s.sentTo root n)) :
    s'.Carried handlers root := by
  have hGiven : ∀ n, s'.handedTo n = s.handedTo n := by
    intro n
    unfold handedTo
    rw [hHanded]
  have hSent : ∀ n, s'.sentTo root n = s.sentTo root n := by
    intro n
    unfold sentTo
    rw [hTaken]
  constructor
  · intro n q hAt
    rw [hGiven, hSent]
    exact hHeld hAt
  · intro n hBound
    rw [hGiven, hSent]
    exact hCarried.fresh (hLength.trans hBound)
  · rw [hSeen, hHanded]
    exact hCarried.noted

/- A call takes a step. -/
theorem Carried.advance
    [DecidableEq H]
    {handlers : Handlers H ω}
    {root : String}
    {s s' : Session H ω}
    {call call' : Client.Call H Nat}
    (hCarried : s.Carried handlers root)
    (hTaken : s'.taken = s.taken)
    (hHanded : s'.handed = s.handed)
    (hAdvance : call.Advance s.client call' s'.client) :
    s'.Carried handlers root := by
  have hSeen := hAdvance.seen_eq
  generalize hClient : s'.client = client' at hAdvance
  cases hAdvance with
  | quiet hOwned hBefore hAfter hRegistry hTransport hRoot hSame =>
      have hQueues : s'.queues = s.queues := by
        unfold queues
        rw [hClient, hTransport]
      apply hCarried.of_same hTaken hHanded hSeen
      · rw [hQueues]
      · rw [hQueues]
        exact hCarried.held
  | access hInner hInner' hAccessed =>
      have hQueues : s'.queues = s.queues := by
        unfold queues
        rw [hClient]
      apply hCarried.of_same hTaken hHanded hSeen
      · rw [hQueues]
      · rw [hQueues]
        exact hCarried.held
  | @bind key handler old hInner hInner' =>
      have hQueues :
          s'.queues = s.queues ++ [⟨handler, [], true, true⟩] := by
        unfold queues
        rw [hClient]
        rfl
      apply hCarried.of_same hTaken hHanded hSeen
      · simp [hQueues]
      · intro n q hAt
        rw [hQueues] at hAt
        rcases Pool.joined_cases hAt with hOld | ⟨rfl, rfl⟩
        · exact hCarried.held hOld
        · rcases hCarried.fresh (Nat.le_refl _) with ⟨hGiven, hSent⟩
          rw [hGiven, hSent]
          exact LocalBroker.Queue.carries_nil handler true
  | @unbind n next hInner hInner' =>
      have hQueues :
          s'.queues =
            s.queues.modify n fun q => { q with attached := false } := by
        unfold queues
        rw [hClient]
        rfl
      apply hCarried.of_same hTaken hHanded hSeen
      · simp [hQueues]
      · intro m q hAt
        rw [hQueues, List.getElem?_modify] at hAt
        rcases Option.map_eq_some_iff.mp hAt with ⟨old, hOld, rfl⟩
        split
        · exact (hCarried.held hOld).detach false
        · exact hCarried.held hOld

/- A publication is sent to queues whose bindings are registered. -/
theorem mem_bindings_of_mem_targets
    {root topic : String}
    {m : Message}
    {r : Registry H Nat}
    {n : Nat}
    (hTarget : n ∈ LocalBroker.targets root ⟨topic, m, r.table⟩) :
    n ∈ r.bindings := by
  unfold LocalBroker.targets at hTarget
  split at hTarget
  · exact absurd hTarget List.not_mem_nil
  · rcases List.mem_map.mp hTarget with ⟨entry, hEntry, rfl⟩
    have hFound :=
      (r.table.mem_entries_iff entry.1 entry.2).mp
        (List.mem_filter.mp hEntry).1
    exact mem_bindings_of_get?_eq_some hFound

/- What is sent to a queue, with one more publication. -/
theorem sentTo_append
    {s s' : Session H ω}
    {p : Publication H}
    (hTaken : s'.taken = s.taken ++ [p])
    (root : String)
    (n : Nat) :
    s'.sentTo root n =
      s.sentTo root n ++
        List.replicate ((LocalBroker.targets root p).count n)
          p.message := by
  unfold sentTo
  rw [hTaken, List.flatMap_append]
  simp

/- A message is published. -/
theorem Carried.publish
    {handlers : Handlers H ω}
    {root topic : String}
    {m : Message}
    {result : Except Fault Unit}
    {s s' : Session H ω}
    (hCarried : s.Carried handlers root)
    (hOwned : s.Owned)
    (hUsable : s.client.registry.poisoned = false)
    (hRoot : s.client.state.root = root)
    (hFits : m.Fits)
    (hPublish :
      Client.publish LocalBroker.transport topic m s.client =
        (result, s'.client))
    (hTaken :
      s'.taken =
        s.taken ++
          Publication.ifOk ⟨topic, m, s.client.registry.table⟩ result)
    (hHanded : s'.handed = s.handed) :
    s'.Carried handlers root := by
  rcases LocalBroker.publish_cases hUsable hPublish with
    ⟨⟨fault, rfl⟩, hClient⟩ | ⟨rfl, b, hClient, hSent⟩
  · have hQueues : s'.queues = s.queues := by
      unfold queues
      rw [hClient]
    apply hCarried.of_same
    · rw [hTaken]
      exact List.append_nil _
    · exact hHanded
    · rw [hClient]
    · rw [hQueues]
    · rw [hQueues]
      exact hCarried.held
  · rw [hRoot] at hSent
    have hQueues : s'.queues = b.queues := by
      unfold queues
      rw [hClient]
      rfl
    have hGiven : ∀ n, s'.handedTo n = s.handedTo n := by
      intro n
      unfold handedTo
      rw [hHanded]
    have hTarget :
        ∀ n ∈ LocalBroker.targets root
            ⟨topic, m, s.client.registry.table⟩,
          ∃ q, s.queues[n]? = some q ∧ q.attached = true := by
      intro n hMember
      exact hOwned.attached n
        (Multiset.mem_add.mpr
          (Or.inl (mem_bindings_of_mem_targets hMember)))
    constructor
    · intro n q hAt
      rw [hQueues, hSent] at hAt
      rcases Option.map_eq_some_iff.mp hAt with ⟨old, hOld, rfl⟩
      rw [hGiven, sentTo_append hTaken]
      refine (hCarried.held hOld).pushes hFits ?_
      intro hSome
      rcases hTarget n (List.count_pos_iff.mp hSome) with
        ⟨q, hAt', hAttached⟩
      have hSame : some old = some q := hOld.symm.trans hAt'
      rw [Option.some.inj hSame]
      exact hAttached
    · intro n hBound
      have hNone : s.queues[n]? = none := by
        have hAt : s'.queues[n]? = none := List.getElem?_eq_none hBound
        rw [hQueues, hSent] at hAt
        exact Option.map_eq_none_iff.mp hAt
      rcases hCarried.fresh (List.getElem?_eq_none_iff.mp hNone) with
        ⟨hNothing, hUnsent⟩
      have hZero :
          (LocalBroker.targets root
            ⟨topic, m, s.client.registry.table⟩).count n = 0 := by
        rw [List.count_eq_zero]
        intro hMember
        rcases hTarget n hMember with ⟨q, hAt, -⟩
        rw [hNone] at hAt
        exact absurd hAt nofun
      rw [hGiven, sentTo_append hTaken, hZero, hUnsent]
      exact ⟨hNothing, rfl⟩
    · rw [hClient, hHanded]
      exact hCarried.noted

/- What was passed on from a queue, with one more delivery. -/
theorem handedTo_append
    {s s' : Session H ω}
    {n : Nat}
    {passed : List (H × Message)}
    (hHanded : s'.handed = s.handed ++ passed.map (n, ·))
    (k : Nat) :
    s'.handedTo k =
      s.handedTo k ++ if k = n then passed else [] := by
  unfold handedTo
  rw [hHanded, List.filter_append, List.map_append]
  by_cases hSame : k = n
  · subst hSame
    simp [List.filter_map, Function.comp_def]
  · simp [List.filter_map, Function.comp_def, hSame, Ne.symm hSame]

/- A message is delivered. -/
theorem Carried.deliver
    {handlers : Handlers H ω}
    {root : String}
    {n : Nat}
    {s s' : Session H ω}
    (hCarried : s.Carried handlers root)
    (hClient :
      s'.client = LocalBroker.deliver handlers.watched n s.client)
    (hTaken : s'.taken = s.taken)
    (hHanded :
      s'.handed =
        s.handed ++
          (s'.client.state.world.seen.drop
            s.client.state.world.seen.length).map (n, ·)) :
    s'.Carried handlers root := by
  rcases LocalBroker.deliver_cases handlers.watched n s.client with
    ⟨-, hNothing⟩ | ⟨q, b, hAt, hQueue, hSomething⟩
  · rw [hNothing] at hClient
    have hQueues : s'.queues = s.queues := by
      unfold queues
      rw [hClient]
    apply hCarried.of_same hTaken
    · rw [hHanded, hClient, List.drop_length]
      exact List.append_nil _
    · rw [hClient]
    · rw [hQueues]
    · rw [hQueues]
      exact hCarried.held
  · rw [hSomething] at hClient
    have hQueues : s'.queues = b.queues := by
      unfold queues
      rw [hClient]
      rfl
    rcases (hCarried.held hAt).deliver s.client.state.world with
      ⟨passed, hSeen, hCarries⟩
    have hSeen' :
        s'.client.state.world.seen =
          s.client.state.world.seen ++ passed := by
      rw [hClient]
      exact hSeen
    rw [hSeen', List.drop_left] at hHanded
    have hGiven := handedTo_append hHanded
    have hSent : ∀ k, s'.sentTo root k = s.sentTo root k := by
      intro k
      unfold sentTo
      rw [hTaken]
    rw [hQueue] at hQueues
    constructor
    · intro k q' hAt'
      rw [hQueues] at hAt'
      rw [hGiven, hSent]
      rcases Pool.stepped_cases hAt' with ⟨rfl, rfl⟩ | ⟨hOther, hOld⟩
      · rw [if_pos rfl]
        exact hCarries
      · rw [if_neg hOther, List.append_nil]
        exact hCarried.held hOld
    · intro k hBound
      rw [hQueues, List.length_set] at hBound
      have hOther : k ≠ n := by
        have hIn := (List.getElem?_eq_some_iff.mp hAt).1
        omega
      rw [hGiven, hSent, if_neg hOther, List.append_nil]
      exact hCarried.fresh hBound
    · rw [hSeen', hHanded, List.map_append, hCarried.noted]
      simp

------------------------------------------------------------
-- Sound sessions
------------------------------------------------------------

/- What holds in every session on a broker with a given root. -/
structure Sound
    (handlers : Handlers H ω)
    (root : String)
    (s : Session H ω) : Prop where
  root_eq : s.client.state.root = root
  usable : s.client.registry.poisoned = false
  owned : s.Owned
  registered : s.Registered
  carried : s.Carried handlers root

/- A broker that nobody has used is sound. -/
theorem sound_start
    (handlers : Handlers H ω)
    (root : String)
    (recording : Bool)
    (world : ω) :
    Sound handlers root (start root recording world : Session H ω) where
  root_eq := rfl
  usable := rfl
  owned := {
    nodup := Multiset.nodup_zero
    attached := fun _ hMember => absurd hMember (Multiset.notMem_zero _) }
  registered := registered_start root recording world
  carried := carried_start handlers root recording world

variable [DecidableEq H]

/- The root of the topics and the lock on the table stay. -/
theorem Step.frame
    {handlers : Handlers H ω}
    {s s' : Session H ω}
    (hUsable : s.client.registry.poisoned = false)
    (hStep : Step handlers s s') :
    s'.client.state.root = s.client.state.root ∧
      s'.client.registry.poisoned = false := by
  cases hStep with
  | ask request => exact ⟨rfl, hUsable⟩
  | advance i hAt hStep =>
      have hAdvance := Client.Call.advance_of_step handlers hStep
      exact ⟨hAdvance.root_eq, hAdvance.usable hUsable⟩
  | publish topic hFits hPublish =>
      rcases LocalBroker.publish_frame hUsable hPublish with
        ⟨hRegistry, hRoot, -⟩
      exact ⟨hRoot, hRegistry ▸ hUsable⟩
  | setAvailable available => exact ⟨rfl, hUsable⟩
  | setRefusal refusal => exact ⟨rfl, hUsable⟩
  | @deliver n client' hDeliver =>
      subst hDeliver
      rcases LocalBroker.deliver_frame handlers.watched n s.client with
        ⟨hRegistry, hRoot⟩
      exact ⟨hRoot, hRegistry ▸ hUsable⟩
  | reorder hReordered => exact ⟨rfl, hReordered.2 ▸ hUsable⟩

/- Queues carry what was sent to them after each step. -/
theorem Carried.step
    {handlers : Handlers H ω}
    {root : String}
    {s s' : Session H ω}
    (hSound : s.Sound handlers root)
    (hStep : Step handlers s s') :
    s'.Carried handlers root := by
  have hCarried := hSound.carried
  cases hStep with
  | ask request =>
      exact hCarried.of_same rfl rfl rfl (Nat.le_refl _) hCarried.held
  | advance i hAt hStep =>
      exact hCarried.advance rfl rfl
        (Client.Call.advance_of_step handlers hStep)
  | publish topic hFits hPublish =>
      exact hCarried.publish hSound.owned hSound.usable hSound.root_eq
        hFits hPublish rfl rfl
  | setAvailable available =>
      exact hCarried.of_same rfl rfl rfl (Nat.le_refl _) hCarried.held
  | setRefusal refusal =>
      exact hCarried.of_same rfl rfl rfl (Nat.le_refl _) hCarried.held
  | deliver n hDeliver =>
      exact hCarried.deliver hDeliver.symm rfl rfl
  | reorder hReordered =>
      exact hCarried.of_same rfl rfl rfl (Nat.le_refl _) hCarried.held

/- Each step keeps a session sound. -/
theorem Sound.step
    {handlers : Handlers H ω}
    {root : String}
    {s s' : Session H ω}
    (hSound : s.Sound handlers root)
    (hStep : Step handlers s s') :
    s'.Sound handlers root := by
  rcases hStep.frame hSound.usable with ⟨hRoot, hUsable⟩
  have hOwned := hSound.owned.step hSound.usable hStep
  constructor
  · exact hRoot.trans hSound.root_eq
  · exact hUsable
  · exact hOwned
  · exact hSound.registered.step hSound.usable hOwned hStep
  · exact Carried.step hSound hStep

/- All sessions are sound. -/
theorem Reachable.sound
    {handlers : Handlers H ω}
    {root : String}
    {recording : Bool}
    {world : ω}
    {s : Session H ω}
    (hReachable :
      Reachable handlers (Session.start root recording world) s) :
    s.Sound handlers root := by
  induction hReachable with
  | start => exact sound_start handlers root recording world
  | step hEarlier hStep ih => exact ih.step hStep

------------------------------------------------------------
-- What registrations are sent
------------------------------------------------------------

/-
  A publication is sent once to the queue of a registration
  that it reaches, and not at all to those of others.
-/
theorem Registered.count_targets
    {s : Session H ω}
    (hRegistered : s.Registered)
    {p : Publication H}
    (hTaken : p ∈ s.taken)
    (root : String)
    {key : Key}
    {v : Subscription H Nat}
    (hMade : s.Made key v) :
    (LocalBroker.targets root p).count v.binding =
      if p.reaches root key v then 1 else 0 := by
  unfold LocalBroker.targets Publication.reaches
  cases p.subject? root with
  | none => simp
  | some subject =>
      have hOnly :
          ∀ {key' v'}, p.table.get? key' = some v' →
            v'.binding = v.binding → key' = key ∧ v' = v := by
        intro key' v' hFound hSame
        exact hRegistered.unique (hRegistered.past hTaken hFound) hMade hSame
      dsimp only
      rw [Table.count_bindings (fun other => Topic.covers other.topic subject)
        hOnly]
      simp

/- What is sent to the queue of a registration is what it asked for. -/
theorem Registered.sentTo_eq_expected
    {s : Session H ω}
    (hRegistered : s.Registered)
    (root : String)
    {key : Key}
    {v : Subscription H Nat}
    (hMade : s.Made key v) :
    s.sentTo root v.binding = s.expected root key v := by
  have hAll :
      ∀ taken : List (Publication H),
        (∀ p ∈ taken, p ∈ s.taken) →
        (taken.flatMap fun p =>
            List.replicate
              ((LocalBroker.targets root p).count v.binding)
              p.message) =
          (taken.filter (·.reaches root key v)).map (·.message) := by
    intro taken hTaken
    induction taken with
    | nil => rfl
    | cons p rest ih =>
        have hCount :=
          hRegistered.count_targets
            (hTaken p List.mem_cons_self) root hMade
        have hRest :=
          ih fun other hOther =>
            hTaken other (List.mem_cons_of_mem p hOther)
        rw [List.flatMap_cons, hCount, hRest, List.filter_cons]
        split
        · rfl
        · rfl
  exact hAll s.taken fun _ hMember => hMember

/-
  Every message that a handler is passed comes from a delivery.
  A call that subscribed a handler without a fault has made a
  registration.  What deliveries passed on for a registration
  is, in every session, a beginning of what was taken for it
  while it was there, each message as it was published, to its
  own handler, once, and in that order.  It is all of that when
  nothing waits in the queue any more, if the handler did not
  break down; a handler that answers, with a failure or
  without, does not break down.
-/
theorem delivered_in_order
    {handlers : Handlers H ω}
    {root : String}
    {recording : Bool}
    {world : ω}
    {s : Session H ω}
    (hReachable :
      Reachable handlers (Session.start root recording world) s) :
    s.client.state.world.seen = s.handed.map (·.2) ∧
    (∀ (i : Nat) key handler,
      s.calls[i]? = some (.subscribe key handler, .done (.ok ())) →
      ∃ n, (i, key, ⟨handler, n⟩) ∈ s.made) ∧
    ∀ i key handler n,
      (i, key, ⟨handler, n⟩) ∈ s.made →
      ∃ q,
        s.queues[n]? = some q ∧
        s.handedTo n <+:
          (s.expected root key ⟨handler, n⟩).map (handler, ·) ∧
        (q.waiting = [] →
          q.running = true →
          s.handedTo n =
            (s.expected root key ⟨handler, n⟩).map (handler, ·)) ∧
        (¬ handlers.Breaks handler → q.running = true) := by
  have hSound := hReachable.sound
  refine ⟨hSound.carried.noted, ?_, ?_⟩
  · intro i key handler hAt
    exact hSound.registered.answered hAt rfl
  · intro i key handler n hMember
    have hMade : s.Made key ⟨handler, n⟩ := ⟨i, hMember⟩
    rcases hSound.registered.queued hMade with ⟨q, hAt, hHandler⟩
    have hCarries := hSound.carried.held hAt
    have hSent := hSound.registered.sentTo_eq_expected root hMade
    dsimp only at hHandler hCarries hSent
    subst hHandler
    rw [hSent] at hCarries
    refine ⟨q, hAt, ?_, ?_, ?_⟩
    · exact hCarries.given_prefix
    · exact hCarries.given_eq
    · exact hCarries.running_of_not_breaks

------------------------------------------------------------
-- A delivery to a handler that fails
------------------------------------------------------------

/- A handler that fails at every message. -/
def busy : Handlers Unit Unit where
  handle := fun _ _ world => (.failed "busy", world)
  cancel := fun _ world => (.ok (), world)

/- The key of a subscription to all topics. -/
def listening : Key where
  client := "client"
  topic := "channels.>"

/- A message that fits. -/
def greeting : Message where
  channel := "c1"
  subtopic := ""
  publisher := "p"
  protocol := ""
  created := 7
  payload := [104, 105]

theorem greeting_fits :
    greeting.Fits := by
  constructor
  · decide
  · decide
  · decide
  · decide
  · decide

/- Another one, on a subtopic. -/
def farewell : Message where
  channel := "c1"
  subtopic := "night"
  publisher := "p"
  protocol := ""
  created := 8
  payload := [98, 121, 101]

theorem farewell_fits :
    farewell.Fits := by
  constructor
  · decide
  · decide
  · decide
  · decide
  · decide

/-
  The handler was subscribed, and messages were published,
  which were passed on or wait in the queue.
-/
def greeted
    (passed pending : List Message) : Session Unit Unit where
  client :=
    { registry :=
        { table := Table.empty.insert listening ⟨(), 0⟩
          poisoned := false }
      state :=
        { root := "channels"
          closed := false
          transport :=
            { available := true
              refusal := none
              log := none
              queues := [⟨(), pending.map Message.encode, true, true⟩] }
          world := { world := (), seen := passed.map ((), ·) } } }
  calls := [(.subscribe listening (), .done (.ok ()))]
  made := [(0, listening, ⟨(), 0⟩)]
  taken :=
    (passed ++ pending).map
      (⟨"c1", ·, Table.empty.insert listening ⟨(), 0⟩⟩)
  handed := passed.map (0, (), ·)

/- The call takes its five steps, then the messages are published. -/
theorem reachable_greeted :
    Reachable busy (Session.start "channels" false ())
      (greeted [] [greeting, farewell]) := by
  have hStart :
      Reachable busy (Session.start "channels" false ()) _ :=
    Reachable.start
  have hAsked := hStart.step (.ask (.subscribe listening ()))
  have hEntered := hAsked.step (.advance 0 rfl rfl)
  have hFound := hEntered.step (.advance 0 rfl rfl)
  have hBound := hFound.step (.advance 0 rfl rfl)
  have hInstalled := hBound.step (.advance 0 rfl rfl)
  have hReturned := hInstalled.step (.advance 0 rfl rfl)
  have hGreeted := hReturned.step (.publish "c1" greeting_fits rfl)
  exact hGreeted.step (.publish "c1" farewell_fits rfl)

/- The first message that waits is delivered, though the handler fails. -/
theorem deliver_greeted
    (passed pending : List Message)
    {m : Message}
    (hFits : m.Fits) :
    LocalBroker.deliver busy.watched 0
        (greeted passed (m :: pending)).client =
      (greeted (passed ++ [m]) pending).client := by
  have hReceive :=
    busy.receive_watched () hFits ⟨(), passed.map ((), ·)⟩
  have hQueue :
      LocalBroker.Queue.deliver busy.watched
          ⟨(), (m :: pending).map Message.encode, true, true⟩
          ⟨(), passed.map ((), ·)⟩ =
        (⟨(), pending.map Message.encode, true, true⟩,
          ⟨(), (passed ++ [m]).map ((), ·)⟩) := by
    simp only [LocalBroker.Queue.deliver, List.map_cons, hReceive,
      List.map_append, List.map_nil]
    rfl
  simp only [LocalBroker.deliver, greeted, List.getElem?_cons_zero,
    hQueue]
  rfl

/-
  The failing handler was passed the first message while the
  second one waits, and then both, in order.
-/
theorem greeted_delivered_in_order :
    (Reachable busy (Session.start "channels" false ())
        (greeted [greeting] [farewell]) ∧
      (greeted [greeting] [farewell]).handedTo 0 = [((), greeting)] ∧
      (greeted [greeting] [farewell]).handedTo 0 <+:
        ((greeted [greeting] [farewell]).expected "channels" listening
          ⟨(), 0⟩).map ((), ·)) ∧
    Reachable busy (Session.start "channels" false ())
      (greeted [greeting, farewell] []) ∧
    (greeted [greeting, farewell] []).handedTo 0 =
      [((), greeting), ((), farewell)] ∧
    (greeted [greeting, farewell] []).handedTo 0 =
      ((greeted [greeting, farewell] []).expected "channels" listening
        ⟨(), 0⟩).map ((), ·) := by
  have hGreeted :
      Reachable busy (Session.start "channels" false ())
        (greeted [greeting] [farewell]) :=
    reachable_greeted.step
      (.deliver 0 (deliver_greeted [] [farewell] greeting_fits))
  have hParted :
      Reachable busy (Session.start "channels" false ())
        (greeted [greeting, farewell] []) :=
    hGreeted.step
      (.deliver 0 (deliver_greeted [greeting] [] farewell_fits))
  have hSteady : ¬ busy.Breaks () := by
    rintro ⟨m, w, hBroken⟩
    exact absurd hBroken nofun
  constructor
  · rcases delivered_in_order hGreeted with ⟨-, -, hRegistrations⟩
    rcases hRegistrations 0 listening () 0 (.head _) with
      ⟨q, hAt, hPrefix, -, -⟩
    exact ⟨hGreeted, rfl, hPrefix⟩
  · rcases delivered_in_order hParted with ⟨-, -, hRegistrations⟩
    rcases hRegistrations 0 listening () 0 (.head _) with
      ⟨q, hAt, -, hDrained, hRunning⟩
    cases hAt
    exact ⟨hParted, rfl, hDrained rfl (hRunning hSteady)⟩

end Session

end Courier
