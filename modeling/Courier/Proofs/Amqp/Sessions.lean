import Courier.Proofs.Amqp.Consumers
import Courier.Proofs.Transport.Calls
import Courier.Proofs.Transport.Conversation

/-
  This file defines all that may happen to a client of an AMQP
  server that works: calls that are made one after the other,
  and deliveries in between.  The table of subscriptions may be
  read in another order at any time.

  Each subscription of such a client has a consumer, which
  leads to its handler under the tag of its key.  The server
  may hold that consumer no more.

  Key definitions include:
    * `Amqp.Happening`, `Amqp.Move`, `Amqp.Run`
    * `Amqp.Wired`
    * `Amqp.Sane`
    * `Amqp.Effect`

  Main statements:
    * `Amqp.Sane.effect`
    * `Amqp.Move.effect`
    * `Amqp.Run.sane`
-/

namespace Courier.Amqp

open Registration

variable {H ω : Type}

------------------------------------------------------------
-- Runs
------------------------------------------------------------

/- What may happen to a client. -/
inductive Happening (H : Type) where
  /- A call was made and has returned. -/
  | asked (ask : Ask H) (result : Except Fault Unit)
  /- A handler was given a payload that waited for a consumer. -/
  | delivered (n : Nat) (handler : H) (octets : Octets)
  /- The subscriptions are read in another order from now on. -/
  | reordered

/- How a client changes, if some calls are permitted. -/
inductive Move
    [DecidableEq H]
    (permits : AmqpClient H ω → Ask H → Prop)
    (handlers : Handlers H ω)
    (c : AmqpClient H ω) : Happening H → AmqpClient H ω → Prop where
  | asked
      {ask : Ask H}
      {result : Except Fault Unit}
      {c' : AmqpClient H ω}
      (hPermitted : permits c ask)
      (hAnswer : ask.answer transport handlers c = (result, c')) :
      Move permits handlers c (.asked ask result) c'
  | delivered
      {n : Nat}
      {x : Consumer H}
      {octets : Octets}
      {rest : List Octets}
      {c' : AmqpClient H ω}
      (hAt : c.state.transport.consumers[n]? = some x)
      (hWaiting : x.waiting = octets :: rest)
      (hDeliver : deliver handlers n c = c') :
      Move permits handlers c (.delivered n x.handler octets) c'
  | reordered
      {r : Registry H Nat}
      (hReordered : c.registry.Reordered r) :
      Move permits handlers c .reordered { c with registry := r }

/- What can come of a client, with all that happened on the way. -/
inductive Run
    [DecidableEq H]
    (permits : AmqpClient H ω → Ask H → Prop)
    (handlers : Handlers H ω)
    (first : AmqpClient H ω) :
    List (Happening H) → AmqpClient H ω → Prop where
  | start : Run permits handlers first [] first
  | move
      {happenings : List (Happening H)}
      {happening : Happening H}
      {c c' : AmqpClient H ω}
      (hEarlier : Run permits handlers first happenings c)
      (hMove : Move permits handlers c happening c') :
      Run permits handlers first (happenings ++ [happening]) c'

/- The client of an AMQP server that has just connected. -/
def create
    (root exchange : String)
    (world : ω) : AmqpClient H ω :=
  Client.create root (.create exchange) world

------------------------------------------------------------
-- Sane clients
------------------------------------------------------------

/- The consumers on a server were started for some keys. -/
structure Wired
    (keys : List Key)
    (b : Broker H) : Prop where
  calm : b.denying = false
  attended : b.Attended
  length : keys.length = b.consumers.length
  checked : ∀ key ∈ keys, key.check = .ok ()
  tags :
    ∀ {n : Nat} {key x}, keys[n]? = some key →
      b.consumers[n]? = some x → x.tag = consumerTag key

/- What holds of every client, with consumers for some keys. -/
structure Sane
    (keys : List Key)
    (c : AmqpClient H ω) : Prop where
  usable : c.registry.poisoned = false
  /- A closed client has no subscriptions. -/
  shut :
    c.state.closed = true → ∀ key, c.registry.table.get? key = none
  wired : Wired keys c.state.transport
  registered :
    ∀ {key s}, c.registry.table.get? key = some s →
      keys[s.binding]? = some key ∧
        ∃ x, c.state.transport.consumers[s.binding]? = some x ∧
          x.handler = s.handler

/- Consumers that fade were started for the same keys. -/
theorem Wired.declines
    {keys : List Key}
    {b b' : Broker H}
    (hWired : Wired keys b)
    (hDeclines : b.Declines b') :
    Wired keys b' where
  calm := hDeclines.calm.trans hWired.calm
  attended := hDeclines.attended hWired.attended
  length := hWired.length.trans hDeclines.consumers.length_eq.symm
  checked := hWired.checked
  tags := by
    intro n key x' hKey hAt'
    rcases hDeclines.consumers.exists_before hAt' with
      ⟨x, hAt, -, hTag, -⟩
    exact hTag.trans (hWired.tags hKey hAt)

/- A new consumer was started for a key. -/
theorem Wired.started
    {keys : List Key}
    {b b' : Broker H}
    {key : Key}
    {handler : H}
    (hWired : Wired keys b)
    (hCheck : key.check = .ok ())
    (hConsumers :
      b'.consumers = b.consumers ++ [⟨handler, consumerTag key, true, []⟩])
    (hOpen : b.isOpen = true)
    (hSame : b'.isOpen = b.isOpen)
    (hCalm : b'.denying = b.denying) :
    Wired (keys ++ [key]) b' where
  calm := hCalm.trans hWired.calm
  attended := fun _ _ _ => hSame.trans hOpen
  length := by simp [hConsumers, hWired.length]
  checked := by
    intro other hMember
    rcases List.mem_append.mp hMember with hOld | hNew
    · exact hWired.checked other hOld
    · rw [List.mem_singleton.mp hNew]
      exact hCheck
  tags := by
    intro n other x hKey hAt
    rw [hConsumers] at hAt
    rcases Pool.joined_cases hAt with hOld | ⟨rfl, rfl⟩
    · have hBound := (List.getElem?_eq_some_iff.mp hOld).1
      rw [← hWired.length] at hBound
      rw [List.getElem?_append_left hBound] at hKey
      exact hWired.tags hKey hOld
    · rw [← hWired.length, List.getElem?_concat_length] at hKey
      cases hKey
      rfl

/- A client that has just connected is sane. -/
theorem sane_create
    (root exchange : String)
    (world : ω) :
    Sane [] (create root exchange world : AmqpClient H ω) where
  usable := rfl
  shut := nofun
  wired := ⟨rfl, nofun, rfl, nofun, nofun⟩
  registered := nofun

section Sane

variable {keys : List Key}
variable {c : AmqpClient H ω}
variable (hSane : Sane keys c)

include hSane

/- Consumers may fade. -/
theorem Sane.declines
    {b : Broker H}
    (hDeclines : c.state.transport.Declines b)
    (w : ω) :
    Sane keys ((c.withWorld w).withTransport b) where
  usable := hSane.usable
  shut := hSane.shut
  wired := hSane.wired.declines hDeclines
  registered := by
    intro key s hFound
    rcases hSane.registered hFound with ⟨hKey, x, hAt, hHandler⟩
    rcases hDeclines.consumers.exists_after hAt with ⟨x', hAt', hSame, -⟩
    exact ⟨hKey, x', hAt', hSame.trans hHandler⟩

/- A subscription may be taken out. -/
theorem Sane.uninstall
    (key : Key) :
    Sane keys (c.uninstall key) where
  usable := hSane.usable
  shut := by
    intro hClosed other
    change (c.registry.table.erase key).get? other = none
    rw [Table.get?_erase]
    split
    · rfl
    · exact hSane.shut hClosed other
  wired := hSane.wired
  registered := by
    intro other s hFound
    change (c.registry.table.erase key).get? other = some s at hFound
    rw [Table.get?_erase] at hFound
    split at hFound
    · exact absurd hFound nofun
    · exact hSane.registered hFound

/- A key may be given a consumer, while others fade. -/
theorem Sane.install
    {key : Key}
    {handler : H}
    {started last : Broker H}
    (hOpen : c.state.closed = false)
    (hCheck : key.check = .ok ())
    (hConsumers :
      started.consumers =
        c.state.transport.consumers ++
          [⟨handler, consumerTag key, true, []⟩])
    (hChannel : c.state.transport.isOpen = true)
    (hSame : started.isOpen = c.state.transport.isOpen)
    (hCalm : started.denying = c.state.transport.denying)
    (hDeclines : started.Declines last)
    (w : ω) :
    Sane (keys ++ [key])
      (((c.withWorld w).withTransport last).install key
        ⟨handler, c.state.transport.consumers.length⟩) := by
  have hWired :=
    hSane.wired.started hCheck hConsumers hChannel hSame hCalm
  have hLast :
      (keys ++ [key])[c.state.transport.consumers.length]? = some key := by
    rw [← hSane.wired.length]
    exact List.getElem?_concat_length
  constructor
  · exact hSane.usable
  · intro hClosed
    exact absurd (hOpen.symm.trans hClosed) Bool.false_ne_true
  · exact hWired.declines hDeclines
  · intro other s hFound
    change (c.registry.table.insert key _).get? other = some s at hFound
    change _ ∧ ∃ x, last.consumers[s.binding]? = some x ∧ _
    -- Each consumer is found as it was started, and may fade then.
    have hStarted :
        (keys ++ [key])[s.binding]? = some other ∧
          ∃ x, started.consumers[s.binding]? = some x ∧
            x.handler = s.handler := by
      rw [Table.get?_insert] at hFound
      split at hFound
      · rename_i hKey
        cases hFound
        refine
          ⟨hKey ▸ hLast, ⟨handler, consumerTag key, true, []⟩, ?_, rfl⟩
        rw [hConsumers]
        exact List.getElem?_concat_length
      · rcases hSane.registered hFound with ⟨hKey, x, hAt, hHandler⟩
        refine ⟨?_, x, ?_, hHandler⟩
        · rw [List.getElem?_append_left]
          · exact hKey
          · exact (List.getElem?_eq_some_iff.mp hKey).1
        · rw [hConsumers, List.getElem?_append_left]
          · exact hAt
          · exact (List.getElem?_eq_some_iff.mp hAt).1
    rcases hStarted with ⟨hKey, x, hAt, hHandler⟩
    rcases hDeclines.consumers.exists_after hAt with ⟨x', hAt', hSameX, -⟩
    exact ⟨hKey, x', hAt', hSameX.trans hHandler⟩

/- The subscriptions may be read in another order. -/
theorem Sane.reordered
    {r : Registry H Nat}
    (hReordered : c.registry.Reordered r) :
    Sane keys { c with registry := r } := by
  have hSame := Table.get?_eq_of_reordered hReordered.1
  constructor
  · exact hReordered.2 ▸ hSane.usable
  · intro hClosed key
    exact (hSame key).trans (hSane.shut hClosed key)
  · exact hSane.wired
  · intro key s hFound
    exact hSane.registered (hSame key ▸ hFound)

end Sane

------------------------------------------------------------
-- Effects
------------------------------------------------------------

/-
  All that a call, a delivery or another reading of the table
  can do to a client.  Consumers fade, and at most one new one
  is started, on an open channel.
-/
inductive Effect
    (c : AmqpClient H ω) : AmqpClient H ω → Prop where
  /- The subscriptions are the same. -/
  | kept
      {b : Broker H}
      (hDeclines : c.state.transport.Declines b)
      (w : ω) :
      Effect c ((c.withWorld w).withTransport b)
  /- A key has lost its subscription. -/
  | removed
      {b : Broker H}
      (hDeclines : c.state.transport.Declines b)
      (w : ω)
      (key : Key) :
      Effect c (((c.withWorld w).withTransport b).uninstall key)
  /- A key has a new subscription. -/
  | started
      {key : Key}
      {handler : H}
      {started last : Broker H}
      (hOpen : c.state.closed = false)
      (hCheck : key.check = .ok ())
      (hChannel : c.state.transport.isOpen = true)
      (hConsumers :
        started.consumers =
          c.state.transport.consumers ++
            [⟨handler, consumerTag key, true, []⟩])
      (hSame : started.isOpen = c.state.transport.isOpen)
      (hCalm : started.denying = c.state.transport.denying)
      (hDeclines : started.Declines last)
      (w : ω) :
      Effect c
        (((c.withWorld w).withTransport last).install key
          ⟨handler, c.state.transport.consumers.length⟩)
  /- The client is closed, and no key has a subscription. -/
  | shut
      {c' : AmqpClient H ω}
      (hDeclines : c.state.transport.Declines c'.state.transport)
      (hRegistry : c'.registry = { c.registry with table := .empty })
      (hClosed : c'.state.closed = true) :
      Effect c c'
  /- The subscriptions are read in another order. -/
  | reordered
      {r : Registry H Nat}
      (hReordered : c.registry.Reordered r) :
      Effect c { c with registry := r }

/- Nothing at all may happen. -/
theorem effect_refl
    (c : AmqpClient H ω) :
    Effect c c :=
  .kept (Broker.declines_refl _) c.state.world

section Effects

variable {keys : List Key}
variable {c : AmqpClient H ω}
variable (hSane : Sane keys c)

include hSane

/- Every effect leaves a client sane. -/
theorem Sane.effect
    {c' : AmqpClient H ω}
    (hEffect : Effect c c') :
    ∃ keys', Sane keys' c' := by
  cases hEffect with
  | kept hDeclines w => exact ⟨keys, hSane.declines hDeclines w⟩
  | removed hDeclines w key =>
      exact ⟨keys, (hSane.declines hDeclines w).uninstall key⟩
  | @started key handler started last hOpen hCheck hChannel hConsumers
      hSame hCalm hDeclines w =>
      exact ⟨keys ++ [key],
        hSane.install hOpen hCheck hConsumers hChannel hSame hCalm
          hDeclines w⟩
  | shut hDeclines hRegistry hClosed =>
      have hNone : ∀ key, c'.registry.table.get? key = none := by
        intro key
        rw [hRegistry]
        rfl
      refine ⟨keys, ?_, fun _ => hNone, ?_, ?_⟩
      · rw [hRegistry]
        exact hSane.usable
      · exact hSane.wired.declines hDeclines
      · intro key s hFound
        exact absurd ((hNone key).symm.trans hFound) nofun
  | reordered hReordered => exact ⟨keys, hSane.reordered hReordered⟩

/- A handler is subscribed, or not, or has lost its place. -/
theorem Sane.effect_subscribe
    [DecidableEq H]
    (handlers : Handlers H ω)
    (key : Key)
    (handler : H) :
    Effect c (c.subscribe transport handlers key handler).2 := by
  have hCalm := hSane.wired.calm
  cases hOpen : c.state.closed with
  | true =>
      rw [Client.subscribe_closed hOpen]
      exact effect_refl c
  | false =>
      cases hCheck : key.check with
      | error fault =>
          rw [Client.subscribe_refused hOpen hCheck]
          exact effect_refl c
      | ok checked =>
          cases hFound : c.registry.table.get? key with
          | none =>
              rcases bind_cases hCalm key handler with
                ⟨-, hBind⟩ | ⟨-, -, b, hBind, hDeclines, -⟩ |
                ⟨hChannel, -, b, hBind, hConsumers, hSame, hStill⟩
              · rw [Client.subscribe_unbound hOpen hSane.usable hCheck
                  hFound rfl hBind]
                exact effect_refl c
              · rw [Client.subscribe_unbound hOpen hSane.usable hCheck
                  hFound rfl hBind]
                exact .kept hDeclines c.state.world
              · rw [Client.subscribe_free hOpen hSane.usable hCheck
                  hFound rfl hBind]
                exact .started hOpen hCheck hChannel hConsumers hSame
                  hStill (Broker.declines_refl b) c.state.world
          | some old =>
              rcases hCancel :
                  handlers.cancel old.handler c.state.world with
                ⟨outcome, w⟩
              cases outcome with
              | error detail =>
                  rw [Client.subscribe_uncancelled hOpen hSane.usable
                    hCheck hFound hCancel]
                  exact .kept (Broker.declines_refl _) w
              | ok cancelled =>
                  rcases bind_cases hCalm key handler with
                    ⟨-, hBind⟩ | ⟨-, -, b, hBind, hDeclines, -⟩ |
                    ⟨hChannel, -, b, hBind, hConsumers, hSame, hStill⟩
                  · rw [Client.subscribe_lost hOpen hSane.usable hCheck
                      hFound hCancel rfl hBind]
                    exact .removed (declines_unbind old.binding _) w key
                  · rw [Client.subscribe_lost hOpen hSane.usable hCheck
                      hFound hCancel rfl hBind]
                    exact .removed
                      (hDeclines.trans (declines_unbind old.binding b)) w key
                  · rw [Client.subscribe_replaced hOpen hSane.usable hCheck
                      hFound hCancel rfl hBind]
                    exact .started hOpen hCheck hChannel hConsumers hSame
                      hStill (declines_unbind old.binding b) w

/- A subscription is given up. -/
theorem Sane.effect_unsubscribe
    [DecidableEq H]
    (handlers : Handlers H ω)
    (key : Key) :
    Effect c (c.unsubscribe transport handlers key).2 := by
  cases hOpen : c.state.closed with
  | true =>
      rw [Client.unsubscribe_closed hOpen]
      exact effect_refl c
  | false =>
      cases hCheck : key.check with
      | error fault =>
          rw [Client.unsubscribe_refused hOpen hCheck]
          exact effect_refl c
      | ok checked =>
          cases hFound : c.registry.table.get? key with
          | none =>
              rw [Client.unsubscribe_free hOpen hSane.usable hCheck hFound]
              exact effect_refl c
          | some old =>
              rw [Client.unsubscribe_taken hOpen hSane.usable hCheck hFound]
              exact .removed (declines_unbind old.binding _) _ key

omit hSane in
/- Giving bindings up starts no consumer, and leaves the table alone. -/
theorem giveUp_declines
    (handlers : Handlers H ω)
    (given : List (Subscription H Nat))
    (c : AmqpClient H ω) :
    c.state.transport.Declines
        (c.giveUp transport handlers given).state.transport ∧
      (c.giveUp transport handlers given).registry = c.registry ∧
      (c.giveUp transport handlers given).state.closed =
        c.state.closed := by
  induction given generalizing c with
  | nil => exact ⟨Broker.declines_refl _, rfl, rfl⟩
  | cons s rest ih =>
      rcases ih
          ((c.withWorld (handlers.cancel s.handler c.state.world).2).withTransport
            (unbind s.binding c.state.transport).2) with
        ⟨hDeclines, hRegistry, hClosed⟩
      exact ⟨(declines_unbind s.binding _).trans hDeclines, hRegistry, hClosed⟩

/- All subscriptions are given up. -/
theorem Sane.effect_close
    [DecidableEq H]
    (handlers : Handlers H ω) :
    Effect c (c.close transport handlers).2 := by
  cases hOpen : c.state.closed with
  | true =>
      rw [Client.close_closed hOpen]
      exact effect_refl c
  | false =>
      rw [Client.close_open hOpen hSane.usable]
      rcases giveUp_declines handlers
          (c.registry.table.entries.map (·.2)) c.shut with
        ⟨hDeclines, hRegistry, hClosed⟩
      exact .shut (hDeclines.trans (declines_disconnect _)) hRegistry hClosed

omit hSane in
/- A message is published, or not. -/
theorem effect_publish
    (topic : String)
    (m : Message) :
    Effect c (c.publish transport topic m).2 := by
  unfold Client.publish
  split
  · exact effect_refl c
  · split
    · exact effect_refl c
    · split
      · exact effect_refl c
      · split
        · exact effect_refl c
        · rename_i subject _
          exact .kept (declines_send c.registry subject m _) c.state.world

/- Any call at all. -/
theorem Sane.effect_answer
    [DecidableEq H]
    (handlers : Handlers H ω)
    (ask : Ask H) :
    Effect c (ask.answer transport handlers c).2 := by
  cases ask with
  | publish topic m => exact effect_publish topic m
  | subscribe key handler => exact hSane.effect_subscribe handlers key handler
  | unsubscribe key => exact hSane.effect_unsubscribe handlers key
  | ping patience => exact effect_refl c
  | close => exact hSane.effect_close handlers

end Effects

/- A delivery. -/
theorem effect_deliver
    (handlers : Handlers H ω)
    (n : Nat)
    (c : AmqpClient H ω) :
    Effect c (deliver handlers n c) := by
  have hFrame :
      deliver handlers n c =
        (c.withWorld (deliver handlers n c).state.world).withTransport
          (deliver handlers n c).state.transport := by
    unfold deliver
    dsimp only
    split
    · rfl
    · split
      · rfl
      · rfl
  rw [hFrame]
  exact .kept (declines_deliver handlers n c) _

section Runs

variable [DecidableEq H]
variable {permits : AmqpClient H ω → Ask H → Prop}
variable {handlers : Handlers H ω}

/- Whatever happens to a client, it is an effect. -/
theorem Move.effect
    {keys : List Key}
    {c c' : AmqpClient H ω}
    {happening : Happening H}
    (hMove : Move permits handlers c happening c')
    (hSane : Sane keys c) :
    Effect c c' := by
  cases hMove with
  | @asked ask result c' hPermitted hAnswer =>
      have hEffect := hSane.effect_answer handlers ask
      rw [hAnswer] at hEffect
      exact hEffect
  | @delivered n x octets rest c' hAt hWaiting hDeliver =>
      exact hDeliver ▸ effect_deliver handlers n c
  | reordered hReordered => exact .reordered hReordered

/- A client is sane at all times. -/
theorem Run.sane
    {first c : AmqpClient H ω}
    {happenings : List (Happening H)}
    (hRun : Run permits handlers first happenings c)
    (hFirst : ∃ keys, Sane keys first) :
    ∃ keys, Sane keys c := by
  induction hRun with
  | start => exact hFirst
  | move hEarlier hMove ih =>
      rcases ih with ⟨keys, hSane⟩
      exact hSane.effect (hMove.effect hSane)

end Runs

end Courier.Amqp
