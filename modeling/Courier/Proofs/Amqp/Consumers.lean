import Courier.Amqp.Broker
import Courier.Proofs.Pool

/-
  Laws of the consumers on an AMQP server.  Consumers keep
  their handlers and tags, and the server holds fewer and fewer
  of them, but for a new one.  All that are held are on an open
  channel.

  Key definitions include:
    * `Amqp.Fades`
    * `Amqp.Broker.Attended`
    * `Amqp.Broker.Declines`

  Main statements:
    * `Amqp.bind_cases`
    * `Amqp.declines_unbind`, `Amqp.declines_send`,
      `Amqp.declines_disconnect`, `Amqp.declines_deliver`
-/

namespace Courier.Amqp

open Registration

variable {H ω : Type}

------------------------------------------------------------
-- Consumers
------------------------------------------------------------

/- Consumers are the same, but that fewer of them may be held. -/
structure Fades
    (before after : List (Consumer H)) : Prop where
  length_eq : after.length = before.length
  kept :
    ∀ {n : Nat} {x x'}, before[n]? = some x → after[n]? = some x' →
      x'.handler = x.handler ∧ x'.tag = x.tag ∧
        (x'.held = true → x.held = true)

theorem fades_refl
    (consumers : List (Consumer H)) :
    Fades consumers consumers where
  length_eq := rfl
  kept := by
    intro n x x' hAt hAt'
    cases hAt.symm.trans hAt'
    exact ⟨rfl, rfl, id⟩

/- A consumer that is still there was there before. -/
theorem Fades.exists_before
    {before after : List (Consumer H)}
    (hFades : Fades before after)
    {n : Nat}
    {x' : Consumer H}
    (hAt' : after[n]? = some x') :
    ∃ x, before[n]? = some x ∧ x'.handler = x.handler ∧
      x'.tag = x.tag ∧ (x'.held = true → x.held = true) := by
  have hBound := (List.getElem?_eq_some_iff.mp hAt').1
  rw [hFades.length_eq] at hBound
  have hAt := List.getElem?_eq_getElem hBound
  exact ⟨_, hAt, hFades.kept hAt hAt'⟩

/- A consumer that was there before is still there. -/
theorem Fades.exists_after
    {before after : List (Consumer H)}
    (hFades : Fades before after)
    {n : Nat}
    {x : Consumer H}
    (hAt : before[n]? = some x) :
    ∃ x', after[n]? = some x' ∧ x'.handler = x.handler ∧
      x'.tag = x.tag ∧ (x'.held = true → x.held = true) := by
  have hBound := (List.getElem?_eq_some_iff.mp hAt).1
  rw [← hFades.length_eq] at hBound
  have hAt' := List.getElem?_eq_getElem hBound
  exact ⟨_, hAt', hFades.kept hAt hAt'⟩

theorem Fades.trans
    {first second third : List (Consumer H)}
    (hFades : Fades first second)
    (hMore : Fades second third) :
    Fades first third where
  length_eq := hMore.length_eq.trans hFades.length_eq
  kept := by
    intro n x x'' hAt hAt''
    rcases hFades.exists_after hAt with ⟨x', hAt', hHandler, hTag, hHeld⟩
    rcases hMore.kept hAt' hAt'' with ⟨hHandler', hTag', hHeld'⟩
    exact ⟨hHandler'.trans hHandler, hTag'.trans hTag,
      fun h => hHeld (hHeld' h)⟩

/- One consumer changes, but stays what it is. -/
theorem fades_modify
    (consumers : List (Consumer H))
    (n : Nat)
    {f : Consumer H → Consumer H}
    (hKept :
      ∀ x, (f x).handler = x.handler ∧ (f x).tag = x.tag ∧
        ((f x).held = true → x.held = true)) :
    Fades consumers (consumers.modify n f) where
  length_eq := List.length_modify ..
  kept := by
    intro m x x' hAt hAt'
    rw [List.getElem?_modify, hAt] at hAt'
    by_cases hSame : n = m
    · have hChanged : f x = x' := by simpa [hSame] using hAt'
      rw [← hChanged]
      exact hKept x
    · have hSelf : x = x' := by simpa [hSame] using hAt'
      rw [← hSelf]
      exact ⟨rfl, rfl, id⟩

/- All consumers are let go of. -/
theorem fades_let_go
    (consumers : List (Consumer H)) :
    Fades consumers
      (consumers.map fun x => { x with held := false }) where
  length_eq := List.length_map _
  kept := by
    intro n x x' hAt hAt'
    rw [List.getElem?_map, hAt] at hAt'
    cases hAt'
    exact ⟨rfl, rfl, nofun⟩

/- Payloads come to wait for some consumers. -/
theorem fades_push
    (octets : Octets)
    (ns : List Nat)
    (consumers : List (Consumer H)) :
    Fades consumers
      (ns.foldl
        (fun consumers n => consumers.modify n (Consumer.push octets))
        consumers) := by
  induction ns generalizing consumers with
  | nil => exact fades_refl consumers
  | cons n rest ih =>
      have hFirst :=
        fades_modify consumers n (f := Consumer.push octets)
          fun x => ⟨rfl, rfl, id⟩
      exact hFirst.trans (ih _)

/- A payload is taken from what waits for a consumer. -/
theorem fades_take
    {consumers : List (Consumer H)}
    {n : Nat}
    {x : Consumer H}
    (hAt : consumers[n]? = some x)
    (rest : List Octets) :
    Fades consumers (consumers.set n { x with waiting := rest }) where
  length_eq := List.length_set ..
  kept := by
    intro m y y' hBefore hAfter
    rcases Pool.stepped_cases hAfter with ⟨rfl, rfl⟩ | ⟨-, hOld⟩
    · cases hAt.symm.trans hBefore
      exact ⟨rfl, rfl, id⟩
    · cases hBefore.symm.trans hOld
      exact ⟨rfl, rfl, id⟩

------------------------------------------------------------
-- Servers
------------------------------------------------------------

namespace Broker

/- All consumers that are held are on an open channel. -/
def Attended
    (b : Broker H) : Prop :=
  ∀ x ∈ b.consumers, x.held = true → b.isOpen = true

/-
  Consumers fade, and a connection that is lost does not come
  back.
-/
structure Declines
    (b b' : Broker H) : Prop where
  consumers : Fades b.consumers b'.consumers
  calm : b'.denying = b.denying
  connected : b'.connected = true → b.connected = true
  attended : b.Attended → b'.Attended

theorem declines_refl
    (b : Broker H) :
    Declines b b :=
  ⟨fades_refl _, rfl, id, id⟩

theorem Declines.trans
    {first second third : Broker H}
    (hDeclines : Declines first second)
    (hMore : Declines second third) :
    Declines first third where
  consumers := hDeclines.consumers.trans hMore.consumers
  calm := hMore.calm.trans hDeclines.calm
  connected := fun h => hDeclines.connected (hMore.connected h)
  attended := fun h => hMore.attended (hDeclines.attended h)

/- A connection that was lost stays lost. -/
theorem Declines.lost
    {b b' : Broker H}
    (hDeclines : Declines b b')
    (hLost : b.connected = false) :
    b'.connected = false := by
  cases hConnected : b'.connected with
  | false => rfl
  | true => exact (hDeclines.connected hConnected).symm.trans hLost

/- Consumers fade while the channel stays as it is. -/
theorem declines_of_fades
    {b b' : Broker H}
    (hFades : Fades b.consumers b'.consumers)
    (hCalm : b'.denying = b.denying)
    (hConnected : b'.connected = b.connected)
    (hChannel : b'.channelOpen = b.channelOpen) :
    Declines b b' where
  consumers := hFades
  calm := hCalm
  connected := fun h => hConnected ▸ h
  attended := by
    intro hAttended x' hMember hHeld'
    rcases List.mem_iff_getElem?.mp hMember with ⟨n, hAt'⟩
    rcases hFades.exists_before hAt' with ⟨x, hAt, -, -, hHeld⟩
    have hOpen := hAttended x (List.mem_of_getElem? hAt) (hHeld hHeld')
    unfold isOpen at hOpen ⊢
    rw [hConnected, hChannel]
    exact hOpen

/- A connection that is closed has no consumers left. -/
theorem declines_closeConnection
    (b : Broker H) :
    Declines b b.closeConnection where
  consumers := fades_let_go b.consumers
  calm := rfl
  connected := nofun
  attended := by
    intro _ x hMember hHeld
    rcases List.mem_map.mp hMember with ⟨y, -, rfl⟩
    exact absurd hHeld nofun

theorem declines_abort
    (b : Broker H)
    (n : Nat) :
    Declines b (b.abort n) :=
  declines_of_fades (fades_modify _ n fun _ => ⟨rfl, rfl, id⟩) rfl rfl rfl

theorem declines_cancel
    (b : Broker H)
    (tag : String) :
    Declines b (b.cancel tag) := by
  unfold cancel
  split
  · unfold endConsumer
    split
    · exact declines_of_fades (fades_refl _) rfl rfl rfl
    · exact declines_of_fades (fades_modify _ _ fun _ => ⟨rfl, rfl, nofun⟩)
        rfl rfl rfl
  · exact declines_refl b

theorem declines_distribute
    (b : Broker H)
    (subject : String)
    (octets : Octets) :
    Declines b (b.distribute subject octets) :=
  declines_of_fades (fades_push octets _ b.consumers) rfl rfl rfl

end Broker

open Broker

/- Giving a binding up starts no consumer. -/
theorem declines_unbind
    (n : Nat)
    (b : Broker H) :
    Declines b (unbind n b).2 := by
  unfold unbind
  split
  · exact declines_refl b
  · dsimp only
    split
    · exact (declines_abort b n).trans (declines_cancel _ _)
    · exact declines_abort b n

/- Nor does sending a message. -/
theorem declines_send
    (r : Registry H Nat)
    (subject : String)
    (m : Message)
    (b : Broker H) :
    Declines b (send r subject m b).2 := by
  unfold send
  split
  · have hTold :
        Declines b
          (b.tell (.publish b.exchange subject properties m.encode)) :=
      declines_of_fades (fades_refl _) rfl rfl rfl
    exact hTold.trans (declines_distribute _ subject m.encode)
  · exact declines_refl b

/- Nor does closing the connection. -/
theorem declines_disconnect
    (b : Broker H) :
    Declines b (disconnect b).2 := by
  unfold disconnect
  split
  · have hTold : Declines b (b.tell (.closeConnection 200 "OK")) :=
      declines_of_fades (fades_refl _) rfl rfl rfl
    exact hTold.trans (declines_closeConnection _)
  · exact declines_refl b

/- Nor does a delivery. -/
theorem declines_deliver
    (handlers : Handlers H ω)
    (n : Nat)
    (c : AmqpClient H ω) :
    Declines c.state.transport (deliver handlers n c).state.transport := by
  unfold deliver
  dsimp only
  split
  · exact declines_refl _
  · rename_i x hAt
    split
    · exact declines_refl _
    · rename_i octets rest _
      have hTaken :
          Declines c.state.transport
            { c.state.transport with
              consumers :=
                c.state.transport.consumers.set n
                  { x with waiting := rest } } :=
        declines_of_fades (fades_take hAt rest) rfl rfl rfl
      change Declines c.state.transport (if _ then _ else _)
      split
      · exact hTaken
      · exact hTaken.trans
          ((declines_abort _ n).trans (declines_cancel _ x.tag))

------------------------------------------------------------
-- New consumers
------------------------------------------------------------

/- Declaring a queue and binding it leaves the consumers alone. -/
theorem declareQueue_frame
    (b : Broker H)
    (name : String) :
    (b.declareQueue name).consumers = b.consumers ∧
      (b.declareQueue name).connected = b.connected ∧
      (b.declareQueue name).channelOpen = b.channelOpen ∧
      (b.declareQueue name).denying = b.denying := by
  unfold declareQueue
  split
  · exact ⟨rfl, rfl, rfl, rfl⟩
  · exact ⟨rfl, rfl, rfl, rfl⟩

/- The server when the queue of a key was declared and bound. -/
def Broker.prepare
    (b : Broker H)
    (key : Key) : Broker H :=
  let name := queueName key
  let word := Topic.bindingKey key.topic
  let b := (b.tell (.declareQueue name queueOptions)).declareQueue name
  let b := (b.tell (.bindQueue name b.exchange word)).bindQueue name word
  b.tell (.consume name (consumerTag key) consumeOptions)

theorem prepare_frame
    (b : Broker H)
    (key : Key) :
    (b.prepare key).consumers = b.consumers ∧
      (b.prepare key).connected = b.connected ∧
      (b.prepare key).channelOpen = b.channelOpen ∧
      (b.prepare key).denying = b.denying :=
  declareQueue_frame (b.tell (.declareQueue (queueName key) queueOptions))
    (queueName key)

/- The server when a consumer was started for a key. -/
def Broker.started
    (b : Broker H)
    (key : Key)
    (handler : H) : Broker H :=
  (b.prepare key).startConsumer (queueName key) (consumerTag key) handler

theorem started_frame
    (b : Broker H)
    (key : Key)
    (handler : H) :
    (b.started key handler).consumers =
        b.consumers ++ [⟨handler, consumerTag key, true, []⟩] ∧
      (b.started key handler).isOpen = b.isOpen ∧
      (b.started key handler).denying = b.denying := by
  rcases prepare_frame b key with ⟨hSame, hConnected, hChannel, hDenying⟩
  refine ⟨?_, ?_, hDenying⟩
  · change (b.prepare key).consumers ++ _ = _
    rw [hSame]
  · change ((b.prepare key).connected && (b.prepare key).channelOpen) = _
    rw [hConnected, hChannel]
    rfl

/-
  On an open channel of a server that refuses no queue, the
  tag of a new consumer decides whether it is started.
-/
theorem bind_eq
    {b : Broker H}
    (hCalm : b.denying = false)
    (hOpen : b.isOpen = true)
    (key : Key)
    (handler : H) :
    bind key handler b =
      if consumerTag key ∈ b.active then
        (.error (.connection "consumer tag in use"),
          (b.prepare key).closeConnection)
      else
        (.ok b.consumers.length, b.started key handler) := by
  have hSame := (prepare_frame b key).1
  have hActive : (b.prepare key).active = b.active := by
    unfold active
    rw [hSame]
  have hBind :
      bind key handler b =
        if consumerTag key ∈ (b.prepare key).active then
          (.error (.connection "consumer tag in use"),
            (b.prepare key).closeConnection)
        else
          (.ok (b.prepare key).consumers.length,
            b.started key handler) := by
    have hCalm' :
        ¬ (b.tell (.declareQueue (queueName key) queueOptions)).denying =
          true :=
      Bool.eq_false_iff.mp hCalm
    dsimp only [bind]
    rw [hOpen, if_neg (by decide), if_neg hCalm']
    rfl
  rw [hBind, hActive, hSame]

/-
  A new consumer is refused where the channel is not open.
  Where its tag is in use, the connection is lost.  In all
  other cases it is started.
-/
theorem bind_cases
    {b : Broker H}
    (hCalm : b.denying = false)
    (key : Key)
    (handler : H) :
    (b.isOpen = false ∧ bind key handler b = (.error notOpen, b)) ∨
    (b.isOpen = true ∧ consumerTag key ∈ b.active ∧
      ∃ b',
        bind key handler b =
          (.error (.connection "consumer tag in use"), b') ∧
        Declines b b' ∧ b'.connected = false) ∨
    (b.isOpen = true ∧ consumerTag key ∉ b.active ∧
      ∃ b',
        bind key handler b = (.ok b.consumers.length, b') ∧
        b'.consumers =
          b.consumers ++ [⟨handler, consumerTag key, true, []⟩] ∧
        b'.isOpen = b.isOpen ∧
        b'.denying = b.denying) := by
  cases hOpen : b.isOpen with
  | false => exact Or.inl ⟨rfl, by simp [bind, hOpen]⟩
  | true =>
      rcases prepare_frame b key with
        ⟨hSame, hConnected, hChannel, hDenying⟩
      right
      rw [bind_eq hCalm hOpen]
      by_cases hUsed : consumerTag key ∈ b.active
      · left
        have hPrepared : Declines b (b.prepare key) :=
          declines_of_fades (hSame ▸ fades_refl _) hDenying hConnected
            hChannel
        rw [if_pos hUsed]
        exact ⟨rfl, hUsed, _, rfl,
          hPrepared.trans (declines_closeConnection _), rfl⟩
      · right
        rcases started_frame b key handler with
          ⟨hConsumers, hStill, hCalm'⟩
        rw [if_neg hUsed]
        exact ⟨rfl, hUsed, _, rfl, hConsumers, hStill.trans hOpen, hCalm'⟩

end Courier.Amqp
