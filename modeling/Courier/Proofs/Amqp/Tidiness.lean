import Courier.Proofs.Amqp.Lanes
import Courier.Proofs.Amqp.Sessions

/-
  This file defines tidy clients of an AMQP server: open ones,
  where each consumer that the server holds has a lane, and all
  queues are lanes.

  What the client does to one consumer, or to the table, leaves
  it tidy, with the lanes that there were or one more or less.

  Key definitions include:
    * `Amqp.Tidy`

  Main statements:
    * `Amqp.tidy_create`
    * `Amqp.Tidy.distribute`, `Amqp.Tidy.install`
    * `Amqp.Tidy.take`, `Amqp.Tidy.retire`
    * `Amqp.Tidy.only`
-/

namespace Courier.Amqp

open Registration

variable {H ω : Type}

------------------------------------------------------------
-- Tidy clients
------------------------------------------------------------

/-
  A client is open on a channel that is open, its keys are of
  one kind, and lanes are all that there is.
-/
structure Tidy
    (K : Key → Prop)
    (root : String)
    (lanes : List Lane)
    (c : AmqpClient H ω) : Prop where
  root_eq : c.state.root = root
  unclosed : c.state.closed = false
  isOpen : c.state.transport.isOpen = true
  queues : c.state.transport.queues = lanes.map Lane.queue
  numbers : (lanes.map (·.number)).Nodup
  chosen : ∀ {key s}, c.registry.table.get? key = some s → K key
  /- Nothing waits for a consumer that the server does not hold. -/
  idle :
    ∀ {n : Nat} {x}, c.state.transport.consumers[n]? = some x →
      x.held = false → x.waiting = []
  held :
    ∀ {n : Nat} {x}, c.state.transport.consumers[n]? = some x →
      x.held = true → ∃ lane ∈ lanes, lane.number = n
  fed :
    ∀ {lane}, lane ∈ lanes →
      ∃ x, c.state.transport.consumers[lane.number]? = some x ∧
        x.held = true ∧
        c.registry.table.get? lane.key = some ⟨x.handler, lane.number⟩

/- A client that has just connected is tidy. -/
theorem tidy_create
    (K : Key → Prop)
    (root exchange : String)
    (world : ω) :
    Tidy K root [] (create root exchange world : AmqpClient H ω) where
  root_eq := rfl
  unclosed := rfl
  isOpen := rfl
  queues := rfl
  numbers := List.nodup_nil
  chosen := nofun
  idle := nofun
  held := nofun
  fed := nofun

/- The consumer of a subscription has the tag of its key. -/
theorem Sane.tag
    {keys : List Key}
    {c : AmqpClient H ω}
    (hSane : Sane keys c)
    {key : Key}
    {s : Subscription H Nat}
    {x : Consumer H}
    (hFound : c.registry.table.get? key = some s)
    (hAt : c.state.transport.consumers[s.binding]? = some x) :
    x.tag = consumerTag key :=
  hSane.wired.tags (hSane.registered hFound).1 hAt

namespace Tidy

variable {K : Key → Prop}
variable {root : String}
variable {lanes : List Lane}
variable {c c' : AmqpClient H ω}
variable (hTidy : Tidy K root lanes c)

include hTidy

/- The subscriptions may be read in another order. -/
theorem reordered
    {r : Registry H Nat}
    (hReordered : c.registry.Reordered r) :
    Tidy K root lanes { c with registry := r } := by
  have hSame := Table.get?_eq_of_reordered hReordered.1
  constructor
  · exact hTidy.root_eq
  · exact hTidy.unclosed
  · exact hTidy.isOpen
  · exact hTidy.queues
  · exact hTidy.numbers
  · intro key s hFound
    exact hTidy.chosen (hSame key ▸ hFound)
  · exact hTidy.idle
  · exact hTidy.held
  · intro lane hMember
    rcases hTidy.fed hMember with ⟨x, hAt, hHeld, hFound⟩
    exact ⟨x, hAt, hHeld, (hSame lane.key).trans hFound⟩

------------------------------------------------------------
-- Messages
------------------------------------------------------------

/- The server may be told something. -/
theorem tell
    (command : Command) :
    Tidy K root lanes (c.withTransport (c.state.transport.tell command)) :=
  ⟨hTidy.root_eq, hTidy.unclosed, hTidy.isOpen, hTidy.queues,
    hTidy.numbers, hTidy.chosen, hTidy.idle, hTidy.held, hTidy.fed⟩

/- A message comes to wait on lanes only. -/
theorem distribute
    (subject : String)
    (octets : Octets) :
    Tidy K root lanes
      (c.withTransport (c.state.transport.distribute subject octets)) := by
  have hConsumers :=
    getElem?_distribute_lanes hTidy.queues hTidy.numbers subject octets
  constructor
  · exact hTidy.root_eq
  · exact hTidy.unclosed
  · exact hTidy.isOpen
  · exact (distribute_lanes hTidy.queues subject octets).1.trans
      hTidy.queues
  · exact hTidy.numbers
  · exact hTidy.chosen
  · intro n x hAt hFree
    rw [Client.withTransport] at hAt
    rw [hConsumers] at hAt
    rcases Option.map_eq_some_iff.mp hAt with ⟨old, hOld, rfl⟩
    split at hFree
    · rename_i hReached
      -- What a message is handed to has a lane, so it is held.
      rcases List.mem_map.mp hReached with ⟨lane, hLane, rfl⟩
      rcases hTidy.fed (List.mem_filter.mp hLane).1 with
        ⟨x, hAt', hHeld, -⟩
      cases hOld.symm.trans hAt'
      cases hHeld.symm.trans hFree
    · rename_i hMissed
      rw [if_neg hMissed]
      exact hTidy.idle hOld hFree
  · intro n x hAt hHeld
    rw [Client.withTransport] at hAt
    rw [hConsumers] at hAt
    rcases Option.map_eq_some_iff.mp hAt with ⟨old, hOld, rfl⟩
    apply hTidy.held hOld
    split at hHeld
    · exact hHeld
    · exact hHeld
  · intro lane hMember
    rcases hTidy.fed hMember with ⟨x, hAt, hHeld, hFound⟩
    refine ⟨_, (hConsumers _).trans (congrArg (Option.map _) hAt), ?_, ?_⟩
    · split
      · exact hHeld
      · exact hHeld
    · split
      · exact hFound
      · exact hFound

/- A payload is taken from what waits for a consumer. -/
theorem take
    {n : Nat}
    {x : Consumer H}
    (hAt : c.state.transport.consumers[n]? = some x)
    (hHeld : x.held = true)
    (rest : List Octets)
    (w : ω) :
    Tidy K root lanes
      ((c.withTransport
        { c.state.transport with
          consumers :=
            c.state.transport.consumers.set n
              { x with waiting := rest } }).withWorld w) := by
  constructor
  · exact hTidy.root_eq
  · exact hTidy.unclosed
  · exact hTidy.isOpen
  · exact hTidy.queues
  · exact hTidy.numbers
  · exact hTidy.chosen
  · intro m y hAt' hFree
    rcases Pool.stepped_cases hAt' with ⟨rfl, rfl⟩ | ⟨-, hOld⟩
    · cases hHeld.symm.trans hFree
    · exact hTidy.idle hOld hFree
  · intro m y hAt' hHeld'
    rcases Pool.stepped_cases hAt' with ⟨rfl, rfl⟩ | ⟨-, hOld⟩
    · exact hTidy.held hAt hHeld
    · exact hTidy.held hOld hHeld'
  · intro lane hMember
    rcases hTidy.fed hMember with ⟨y, hAt', hHeld', hFound⟩
    by_cases hSame : lane.number = n
    · rw [hSame] at hAt'
      cases hAt.symm.trans hAt'
      refine ⟨{ x with waiting := rest }, ?_, hHeld', hFound⟩
      rw [hSame]
      exact List.getElem?_set_self (List.getElem?_eq_some_iff.mp hAt).1
    · refine ⟨y, ?_, hHeld', hFound⟩
      exact (List.getElem?_set_ne (Ne.symm hSame)).trans hAt'

------------------------------------------------------------
-- Subscriptions
------------------------------------------------------------

/- The queue of a key without a subscription is nobody else's. -/
theorem queueName_unused
    (hApart : Apart K)
    {key : Key}
    (hChosen : K key)
    (hFree : c.registry.table.get? key = none)
    (lane : Lane)
    (hMember : lane ∈ lanes) :
    queueName lane.key ≠ queueName key := by
  intro hName
  rcases hTidy.fed hMember with ⟨x, -, -, hFound⟩
  have hSame := hApart.queues (hTidy.chosen hFound) hChosen hName
  rw [hSame, hFree] at hFound
  cases hFound

/- The server holds no consumer under its tag. -/
theorem consumerTag_unused
    (hApart : Apart K)
    {keys : List Key}
    (hSane : Sane keys c)
    {key : Key}
    (hChosen : K key)
    (hFree : c.registry.table.get? key = none) :
    consumerTag key ∉ c.state.transport.active := by
  intro hUsed
  rcases List.mem_map.mp hUsed with ⟨x, hHeld, hTag⟩
  rcases List.mem_filter.mp hHeld with ⟨hMember, hHeld⟩
  rcases List.mem_iff_getElem?.mp hMember with ⟨n, hAt⟩
  rcases hTidy.held hAt hHeld with ⟨lane, hLane, rfl⟩
  rcases hTidy.fed hLane with ⟨y, hAt', -, hFound⟩
  cases hAt.symm.trans hAt'
  rw [hSane.tag hFound hAt] at hTag
  have hSame := hApart.consumers (hTidy.chosen hFound) hChosen hTag
  rw [hSame, hFree] at hFound
  cases hFound

/- A key without a subscription is given one, with a lane. -/
theorem install
    {key : Key}
    {handler : H}
    {b : Broker H}
    (hChosen : K key)
    (hFree : c.registry.table.get? key = none)
    (hConsumers :
      b.consumers =
        c.state.transport.consumers ++
          [⟨handler, consumerTag key, true, []⟩])
    (hQueues :
      b.queues =
        (lanes ++
          [Lane.mk c.state.transport.consumers.length key]).map Lane.queue)
    (hOpen : b.isOpen = true) :
    Tidy K root
      (lanes ++ [Lane.mk c.state.transport.consumers.length key])
      ((c.withTransport b).install key
        ⟨handler, c.state.transport.consumers.length⟩) := by
  have hOld :
      ∀ lane ∈ lanes, lane.number < c.state.transport.consumers.length := by
    intro lane hMember
    rcases hTidy.fed hMember with ⟨x, hAt, -⟩
    exact (List.getElem?_eq_some_iff.mp hAt).1
  constructor
  · exact hTidy.root_eq
  · exact hTidy.unclosed
  · exact hOpen
  · exact hQueues
  · rw [List.map_append, List.nodup_append]
    refine ⟨hTidy.numbers, List.nodup_singleton _, ?_⟩
    intro n hMember m hNew
    rcases List.mem_map.mp hMember with ⟨lane, hLane, rfl⟩
    rw [List.mem_singleton.mp hNew]
    exact Nat.ne_of_lt (hOld lane hLane)
  · intro other s hFound
    change (c.registry.table.insert key _).get? other = some s at hFound
    rw [Table.get?_insert] at hFound
    split at hFound
    · rename_i hSame
      exact hSame ▸ hChosen
    · exact hTidy.chosen hFound
  · intro n x hAt hFree
    change b.consumers[n]? = some x at hAt
    rw [hConsumers] at hAt
    rcases Pool.joined_cases hAt with hBefore | ⟨-, rfl⟩
    · exact hTidy.idle hBefore hFree
    · rfl
  · intro n x hAt hHeld
    change b.consumers[n]? = some x at hAt
    rw [hConsumers] at hAt
    rcases Pool.joined_cases hAt with hBefore | ⟨rfl, -⟩
    · rcases hTidy.held hBefore hHeld with ⟨lane, hMember, hNumber⟩
      exact ⟨lane, List.mem_append_left _ hMember, hNumber⟩
    · exact ⟨_, List.mem_append_right _ (List.mem_singleton_self _), rfl⟩
  · intro lane hMember
    change
      ∃ x, b.consumers[lane.number]? = some x ∧ x.held = true ∧
        (c.registry.table.insert key _).get? lane.key = some _
    rw [hConsumers]
    rcases List.mem_append.mp hMember with hBefore | hNew
    · rcases hTidy.fed hBefore with ⟨x, hAt, hHeld, hFound⟩
      refine ⟨x, ?_, hHeld, ?_⟩
      · rw [List.getElem?_append_left (hOld lane hBefore)]
        exact hAt
      · rw [Table.get?_insert, if_neg]
        · exact hFound
        · rintro rfl
          cases hFree.symm.trans hFound
    · rw [List.mem_singleton.mp hNew]
      refine ⟨_, List.getElem?_concat_length, rfl, ?_⟩
      rw [Table.get?_insert, if_pos rfl]

/- The server holds no other consumer under the tag of a subscription. -/
theorem only
    (hApart : Apart K)
    {keys : List Key}
    (hSane : Sane keys c)
    {key : Key}
    {s : Subscription H Nat}
    {x : Consumer H}
    (hFound : c.registry.table.get? key = some s)
    (hAt : c.state.transport.consumers[s.binding]? = some x)
    {m : Nat}
    {y : Consumer H}
    (hOther : c.state.transport.consumers[m]? = some y)
    (hHeld : y.held = true)
    (hTag : y.tag = x.tag) :
    m = s.binding := by
  rcases hTidy.held hOther hHeld with ⟨lane, hMember, rfl⟩
  rcases hTidy.fed hMember with ⟨z, hAt', -, hFound'⟩
  cases hOther.symm.trans hAt'
  -- Both tags are those of keys, which they tell apart.
  rw [hSane.tag hFound hAt, hSane.tag hFound' hOther] at hTag
  have hSame :=
    hApart.consumers (hTidy.chosen hFound') (hTidy.chosen hFound) hTag
  rw [hSame, hFound] at hFound'
  cases hFound'
  rfl

/- The lane of a subscription is the one of its key. -/
theorem number_eq_iff
    {keys : List Key}
    (hSane : Sane keys c)
    {key : Key}
    {s : Subscription H Nat}
    (hFound : c.registry.table.get? key = some s)
    {lane : Lane}
    (hMember : lane ∈ lanes) :
    lane.number = s.binding ↔ lane.key = key := by
  rcases hTidy.fed hMember with ⟨x, -, -, hFound'⟩
  constructor
  · intro hNumber
    have hKey := (hSane.registered hFound).1
    have hKey' := (hSane.registered hFound').1
    rw [hNumber, hKey] at hKey'
    exact (Option.some.inj hKey').symm
  · rintro rfl
    cases hFound.symm.trans hFound'
    rfl

/- What the server does not hold is on no queue. -/
theorem takeOff_free
    {n : Nat}
    {x : Consumer H}
    (hAt : c.state.transport.consumers[n]? = some x)
    (hFree : x.held = false) :
    Broker.takeOff n c.state.transport.queues =
      c.state.transport.queues := by
  rw [hTidy.queues, takeOff_lanes, List.filter_eq_self.mpr]
  intro lane hMember
  rw [decide_eq_true_iff]
  rintro rfl
  rcases hTidy.fed hMember with ⟨y, hAt', hHeld, -⟩
  cases hAt.symm.trans hAt'
  cases hFree.symm.trans hHeld

/- The consumer of a subscription is fed no longer and cancelled. -/
theorem abort_cancel
    (hApart : Apart K)
    {keys : List Key}
    (hSane : Sane keys c)
    {key : Key}
    {s : Subscription H Nat}
    {x : Consumer H}
    (hFound : c.registry.table.get? key = some s)
    (hAt : c.state.transport.consumers[s.binding]? = some x) :
    ((c.state.transport.abort s.binding).cancel x.tag).consumers =
        c.state.transport.consumers.set s.binding
          { x with held := false, waiting := [] } ∧
      ((c.state.transport.abort s.binding).cancel x.tag).queues =
        Broker.takeOff s.binding c.state.transport.queues ∧
      ((c.state.transport.abort s.binding).cancel x.tag).isOpen =
        c.state.transport.isOpen :=
  Amqp.abort_cancel hAt
    (fun hOther => hTidy.only hApart hSane hFound hAt hOther)
    (hTidy.takeOff_free hAt)

/-
  A consumer is ended.  Its key may have lost its subscription
  or not, and all others keep theirs.
-/
theorem retire
    {n : Nat}
    {x : Consumer H}
    (hRoot : c'.state.root = c.state.root)
    (hClosed : c'.state.closed = c.state.closed)
    (hOpen : c'.state.transport.isOpen = c.state.transport.isOpen)
    (hQueues :
      c'.state.transport.queues =
        Broker.takeOff n c.state.transport.queues)
    (hConsumers :
      c'.state.transport.consumers =
        c.state.transport.consumers.set n
          { x with held := false, waiting := [] })
    (hFewer :
      ∀ {key s}, c'.registry.table.get? key = some s →
        c.registry.table.get? key = some s)
    (hOthers :
      ∀ lane ∈ lanes, lane.number ≠ n →
        c'.registry.table.get? lane.key =
          c.registry.table.get? lane.key) :
    Tidy K root (lanes.filter (·.number ≠ n)) c' := by
  constructor
  · exact hRoot.trans hTidy.root_eq
  · exact hClosed.trans hTidy.unclosed
  · exact hOpen.trans hTidy.isOpen
  · rw [hQueues, hTidy.queues, takeOff_lanes]
  · exact hTidy.numbers.sublist (List.filter_sublist.map _)
  · intro key s hFound
    exact hTidy.chosen (hFewer hFound)
  · intro m y hAt' hFree
    rw [hConsumers] at hAt'
    rcases Pool.stepped_cases hAt' with ⟨-, rfl⟩ | ⟨-, hOld⟩
    · rfl
    · exact hTidy.idle hOld hFree
  · intro m y hAt' hHeld
    rw [hConsumers] at hAt'
    rcases Pool.stepped_cases hAt' with ⟨-, rfl⟩ | ⟨hOther, hOld⟩
    · cases hHeld
    · rcases hTidy.held hOld hHeld with ⟨lane, hMember, rfl⟩
      refine ⟨lane, List.mem_filter.mpr ⟨hMember, ?_⟩, rfl⟩
      exact decide_eq_true hOther
  · intro lane hMember
    rcases List.mem_filter.mp hMember with ⟨hOld, hKept⟩
    have hOther := of_decide_eq_true hKept
    rcases hTidy.fed hOld with ⟨y, hAt', hHeld, hFound⟩
    refine ⟨y, ?_, hHeld, (hOthers lane hOld hOther).trans hFound⟩
    rw [hConsumers, List.getElem?_set_ne (Ne.symm hOther)]
    exact hAt'

end Tidy

end Courier.Amqp
