import Courier.Proofs.Amqp.Sessions
import Courier.Proofs.Transport.Delivery

/-
  This file shows what comes of subscribing to a key on AMQP
  while the server holds a consumer for it.  The new consumer
  is asked for under the tag of the old one, which is in use,
  so the server closes the connection.  The key is left without
  a subscription, and nothing is published any more.

  Main statements:
    * `Amqp.Sane.mem_active`
    * `Amqp.Effect.lost`
    * `Amqp.resubscribing_loses_connection`
-/

namespace Courier.Amqp

open Registration

variable {H ω : Type}

------------------------------------------------------------
-- Lost connections
------------------------------------------------------------

/- Nothing that happens brings a lost connection back. -/
theorem Effect.lost
    {c c' : AmqpClient H ω}
    (hEffect : Effect c c')
    (hLost : c.state.transport.connected = false) :
    c'.state.transport.connected = false := by
  cases hEffect with
  | kept hDeclines w => exact hDeclines.lost hLost
  | removed hDeclines w key => exact hDeclines.lost hLost
  | started hOpen hCheck hChannel hConsumers hSame hCalm hDeclines w =>
      simp [Broker.isOpen, hLost] at hChannel
  | shut hDeclines hRegistry hClosed => exact hDeclines.lost hLost
  | reordered hReordered => exact hLost

/- So it stays lost in every run. -/
theorem Run.lost
    [DecidableEq H]
    {permits : AmqpClient H ω → Ask H → Prop}
    {handlers : Handlers H ω}
    {first c : AmqpClient H ω}
    {happenings : List (Happening H)}
    (hRun : Run permits handlers first happenings c)
    (hFirst : ∃ keys, Sane keys first)
    (hLost : first.state.transport.connected = false) :
    c.state.transport.connected = false := by
  induction hRun with
  | start => exact hLost
  | move hEarlier hMove ih =>
      rcases hEarlier.sane hFirst with ⟨keys, hSane⟩
      exact (hMove.effect hSane).lost ih

/- Nothing is published on a connection that was lost. -/
theorem publish_of_lost
    {c : AmqpClient H ω}
    (hLost : c.state.transport.connected = false)
    (topic : String)
    (m : Message) :
    (c.publish transport topic m).1 ≠ .ok () := by
  unfold Client.publish
  split
  · exact nofun
  · split
    · exact nofun
    · split
      · exact nofun
      · split
        · exact nofun
        · rename_i subject _
          have hRefused :
              send c.registry subject m c.state.transport =
                (.error notOpen, c.state.transport) := by
            simp [send, Broker.isOpen, hLost]
          change (send c.registry subject m c.state.transport).1 ≠ .ok ()
          rw [hRefused]
          exact nofun

------------------------------------------------------------
-- Consumers that are held
------------------------------------------------------------

/- The tag of a subscription is in use while its consumer is held. -/
theorem Sane.mem_active
    {keys : List Key}
    {c : AmqpClient H ω}
    {key : Key}
    {old : Subscription H Nat}
    {x : Consumer H}
    (hSane : Sane keys c)
    (hLive : c.registry.table.get? key = some old)
    (hConsumer : c.state.transport.consumers[old.binding]? = some x)
    (hHeld : x.held = true) :
    consumerTag key ∈ c.state.transport.active := by
  have hTag :=
    hSane.wired.tags (hSane.registered hLive).1 hConsumer
  rw [← hTag]
  apply List.mem_map_of_mem
  exact List.mem_filter.mpr ⟨List.mem_of_getElem? hConsumer, hHeld⟩

/-
  On a client of an AMQP server that works, take a key with a
  subscription whose consumer the server holds, and a handler
  that can be cancelled.  Subscribing another handler fails, as
  the tag of the consumer is in use.  The key has lost its
  subscription, the old handler was cancelled, the server holds
  no consumer at all, and whatever happens from then on, no
  message can be published.
-/
theorem resubscribing_loses_connection
    [DecidableEq H]
    {permits : AmqpClient H ω → Ask H → Prop}
    {handlers : Handlers H ω}
    {root exchange : String}
    {world w : ω}
    {happenings : List (Happening H)}
    {c : AmqpClient H ω}
    (hRun :
      Run permits handlers (create root exchange world) happenings c)
    {key : Key}
    {old : Subscription H Nat}
    {x : Consumer H}
    (hLive : c.registry.table.get? key = some old)
    (hConsumer : c.state.transport.consumers[old.binding]? = some x)
    (hHeld : x.held = true)
    (hCancel :
      handlers.cancel old.handler c.state.world = (.ok (), w))
    (handler : H) :
    ∃ c',
      c.subscribe transport handlers key handler =
        (.error (.connection "consumer tag in use"), c') ∧
      c'.registry.contains key = false ∧
      c'.state.world = w ∧
      (∀ y ∈ c'.state.transport.consumers, y.held = false) ∧
      ∀ later last,
        Run permits handlers c' later last →
        ∀ topic m, (last.publish transport topic m).1 ≠ .ok () := by
  rcases hRun.sane ⟨[], sane_create root exchange world⟩ with
    ⟨keys, hSane⟩
  have hKey := (hSane.registered hLive).1
  have hCheck := hSane.wired.checked key (List.mem_of_getElem? hKey)
  have hChannel :=
    hSane.wired.attended x (List.mem_of_getElem? hConsumer) hHeld
  have hOpen : c.state.closed = false := by
    cases hClosed : c.state.closed with
    | false => rfl
    | true => cases (hSane.shut hClosed key).symm.trans hLive
  have hUsed := hSane.mem_active hLive hConsumer hHeld
  -- The new consumer is asked for while the old one is held.
  rcases bind_cases hSane.wired.calm key handler with
    ⟨hShut, -⟩ | ⟨-, -, b, hBind, hDeclines, hLost⟩ | ⟨-, hUnused, -⟩
  · cases hChannel.symm.trans hShut
  · have hUnbound := declines_unbind old.binding b
    have hLost' := hUnbound.lost hLost
    have hSane' := hSane.declines (hDeclines.trans hUnbound) w
    refine ⟨_, Client.subscribe_lost hOpen hSane.usable hCheck hLive
      hCancel rfl hBind, ?_, rfl, ?_, ?_⟩
    · change (!c.registry.poisoned &&
        (c.registry.table.erase key).contains key) = false
      simp [Table.contains, Table.get?_erase]
    · intro y hMember
      cases hStill : y.held with
      | false => rfl
      | true =>
          have hAttended := hSane'.wired.attended y hMember hStill
          change (_ && _) = true at hAttended
          rw [Bool.and_eq_true] at hAttended
          cases hLost'.symm.trans hAttended.1
    · intro later last hLater
      exact publish_of_lost
        (hLater.lost ⟨keys, hSane'.uninstall key⟩ hLost')
  · exact absurd hUsed hUnused

/- The client after the first handler was subscribed to all topics. -/
def listeningOnce : AmqpClient Unit Unit :=
  ((create "channels" "messages" ()).withTransport
    (bind Session.listening () (.create "messages")).2).install
      Session.listening ⟨(), 0⟩

/- Subscribing to the same topics once more is once too often. -/
theorem listening_twice_loses_connection :
    (create "channels" "messages" ()).subscribe transport Session.busy
        Session.listening () = (.ok (), listeningOnce) ∧
      ∃ c',
        listeningOnce.subscribe transport Session.busy
          Session.listening () =
            (.error (.connection "consumer tag in use"), c') ∧
        c'.registry.contains Session.listening = false := by
  have hFirst :
      (create "channels" "messages" ()).subscribe transport Session.busy
        Session.listening () = (.ok (), listeningOnce) := rfl
  have hRun :
      Run (fun _ _ => True) Session.busy (create "channels" "messages" ())
        [.asked (.subscribe Session.listening ()) (.ok ())]
        listeningOnce :=
    Run.start.move (.asked trivial hFirst)
  have hLive :
      listeningOnce.registry.table.get? Session.listening =
        some ⟨(), 0⟩ := rfl
  have hConsumer :
      listeningOnce.state.transport.consumers[0]? =
        some ⟨(), consumerTag Session.listening, true, []⟩ := rfl
  rcases resubscribing_loses_connection hRun hLive hConsumer rfl rfl () with
    ⟨c', hSecond, hLost, -⟩
  exact ⟨hFirst, c', hSecond, hLost⟩

end Courier.Amqp
