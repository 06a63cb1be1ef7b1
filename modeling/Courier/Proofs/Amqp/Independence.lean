import Courier.Proofs.Amqp.Tidiness
import Courier.Proofs.Transport.Delivery

/-
  This file shows that subscriptions on AMQP do not get in each
  other's way, as long as their keys can be told apart by the
  names and tags made from them, and no key is subscribed while
  it has a subscription.

  Everything that is published on such a client under a subject
  that the key of a subscription accepts is passed to its
  handler, or waits for it, once and in the order of publishing,
  whatever is subscribed, given up or broken beside it.

  Key definitions include:
    * `Amqp.fresh`
    * `Amqp.Happening.passed`, `Amqp.Happening.sent`
    * `Amqp.Happening.Spares`
    * `Amqp.Serves`

  Main statements:
    * `Amqp.Tidy.move`
    * `Amqp.Run.tidy`
    * `Amqp.Run.serves`
    * `Amqp.subscribed_apart`
-/

namespace Courier.Amqp

open Registration

variable {H ω : Type}

------------------------------------------------------------
-- What is seen of a subscription
------------------------------------------------------------

/- Of some kind of keys, only those without a subscription are subscribed. -/
def fresh
    (K : Key → Prop)
    (c : AmqpClient H ω) : Ask H → Prop
  | .subscribe key _ => K key ∧ c.registry.contains key = false
  | _ => True

namespace Happening

/- What is passed from the queue of one consumer. -/
def passed
    (n : Nat) : Happening H → List (H × Octets)
  | .delivered m handler octets =>
      if m = n then [(handler, octets)] else []
  | _ => []

/- What is published under a subject that a key accepts. -/
def sent
    (root : String)
    (key : Key) : Happening H → List Octets
  | .asked (.publish topic m) (.ok ()) =>
      match Topic.build root topic m.subtopic with
      | .error _ => []
      | .ok subject =>
          if accepts (Topic.bindingKey key.topic) subject then
            [m.encode]
          else
            []
  | _ => []

/- The client is closed. -/
def Closes : Happening H → Prop
  | .asked .close _ => True
  | _ => False

/- The subscription of a key is given up, if there is one. -/
def GivesUp
    (key : Key) : Happening H → Prop
  | .asked (.unsubscribe other) _ => other = key
  | _ => False

/- Nobody asks for the end of the subscription of a key. -/
def Spares
    (key : Key)
    (happening : Happening H) : Prop :=
  ¬ happening.Closes ∧ ¬ happening.GivesUp key

end Happening

/-
  What was sent on a lane has been passed to a handler, or
  waits for it.
-/
def Serves
    (lane : Lane)
    (handler : H)
    (c : AmqpClient H ω)
    (passed : List (H × Octets))
    (sent : List Octets) : Prop :=
  ∃ x, c.state.transport.consumers[lane.number]? = some x ∧
    x.handler = handler ∧
    passed ++ x.waiting.map (handler, ·) = sent.map (handler, ·)

/- Nothing is passed or sent, and the consumer of the lane is the same. -/
theorem Serves.same
    {lane : Lane}
    {handler : H}
    {c c' : AmqpClient H ω}
    {passed : List (H × Octets)}
    {sent : List Octets}
    (hServes : Serves lane handler c passed sent)
    (hSame :
      c'.state.transport.consumers[lane.number]? =
        c.state.transport.consumers[lane.number]?) :
    Serves lane handler c' (passed ++ []) (sent ++ []) := by
  rcases hServes with ⟨x, hAt, hHandler, hCarried⟩
  refine ⟨x, hSame.trans hAt, hHandler, ?_⟩
  rw [List.append_nil, List.append_nil]
  exact hCarried

------------------------------------------------------------
-- Calls and deliveries on an open channel
------------------------------------------------------------

section Calls

variable {c : AmqpClient H ω}

/-
  A message that may be published is handed out under its
  subject.  No other message changes anything.
-/
theorem publish_cases
    (hUnclosed : c.state.closed = false)
    (hOpen : c.state.transport.isOpen = true)
    (topic : String)
    (m : Message) :
    (∃ fault, c.publish transport topic m = (.error fault, c)) ∨
    (∃ subject,
      Topic.build c.state.root topic m.subtopic = .ok subject ∧
      c.publish transport topic m =
        (.ok (),
          c.withTransport
            ((c.state.transport.tell
              (.publish c.state.transport.exchange subject properties
                m.encode)).distribute subject m.encode))) := by
  cases hCheck : m.checkFor topic with
  | error fault =>
      left
      exact ⟨fault, by simp [Client.publish, hCheck]⟩
  | ok checked =>
      cases hBuild : Topic.build c.state.root topic m.subtopic with
      | error fault =>
          left
          refine ⟨fault, ?_⟩
          simp [Client.publish, hCheck, hUnclosed, hBuild, transport]
      | ok subject =>
          right
          refine ⟨subject, rfl, ?_⟩
          simp [Client.publish, hCheck, hUnclosed, hBuild, transport, send,
            hOpen]

/- Closing leaves a client closed. -/
theorem close_closes
    [DecidableEq H]
    (handlers : Handlers H ω)
    (hUsable : c.registry.poisoned = false) :
    (c.close transport handlers).2.state.closed = true := by
  cases hOpen : c.state.closed with
  | true =>
      rw [Client.close_closed hOpen]
      exact hOpen
  | false =>
      rw [Client.close_open hOpen hUsable]
      exact (giveUp_declines handlers
        (c.registry.table.entries.map (·.2)) c.shut).2.2

/- A binding is given up by cancelling its consumer. -/
theorem unbind_open
    {b : Broker H}
    {n : Nat}
    {x : Consumer H}
    (hAt : b.consumers[n]? = some x)
    (hOpen : b.isOpen = true) :
    unbind n b = (.ok (), (b.abort n).cancel x.tag) := by
  unfold unbind
  rw [hAt]
  exact if_pos hOpen

/- A handler that can be given no more has broken down. -/
theorem breaks_of_receive
    {handlers : Handlers H ω}
    {handler : H}
    {octets : Octets}
    {w w' : ω}
    (hReceive : handlers.receive handler octets w = (false, w')) :
    handlers.Breaks handler := by
  unfold Handlers.receive at hReceive
  split at hReceive
  · cases hReceive
  · rename_i m _
    refine ⟨m, w, ?_⟩
    dsimp only at hReceive
    split at hReceive
    · assumption
    · cases hReceive

/- A delivery takes what it passes, or ends the consumer. -/
theorem deliver_cases
    (handlers : Handlers H ω)
    {n : Nat}
    {x : Consumer H}
    {octets : Octets}
    {rest : List Octets}
    (hAt : c.state.transport.consumers[n]? = some x)
    (hWaiting : x.waiting = octets :: rest) :
    ∃ w,
      deliver handlers n c =
        (c.withTransport
          { c.state.transport with
            consumers :=
              c.state.transport.consumers.set n
                { x with waiting := rest } }).withWorld w ∨
      (handlers.Breaks x.handler ∧
        deliver handlers n c =
          (c.withTransport
            ((c.state.transport.abort n).cancel x.tag)).withWorld w) := by
  rcases hReceive :
      handlers.receive x.handler octets c.state.world with
    ⟨more, w⟩
  refine ⟨w, ?_⟩
  cases more with
  | true =>
      left
      simp [deliver, hAt, hWaiting, hReceive]
  | false =>
      right
      refine ⟨breaks_of_receive hReceive, ?_⟩
      -- What is left of the payloads is thrown away with the rest.
      have hAborted :
          Broker.abort
              { c.state.transport with
                consumers :=
                  c.state.transport.consumers.set n
                    { x with waiting := rest } } n =
            c.state.transport.abort n := by
        have hSame :
            (c.state.transport.consumers.set n
                { x with waiting := rest }).modify n
              (fun y => { y with waiting := [] }) =
              (c.state.transport.abort n).consumers := by
          rw [Pool.modify_set, consumers_abort hAt]
        unfold Broker.abort
        dsimp only
        rw [hSame]
        rfl
      simp [deliver, hAt, hWaiting, hReceive, hAborted]

end Calls

------------------------------------------------------------
-- Single moves
------------------------------------------------------------

/-
  Something has happened to a tidy client, and it is tidy
  again.  What holds of a lane that was not given up, with a
  handler that does not break, still holds of it.
-/
structure Upholds
    (K : Key → Prop)
    (root : String)
    (handlers : Handlers H ω)
    (lanes : List Lane)
    (c : AmqpClient H ω)
    (happening : Happening H)
    (lanes' : List Lane)
    (c' : AmqpClient H ω) : Prop where
  tidy : Tidy K root lanes' c'
  serves :
    ∀ {lane}, lane ∈ lanes → ¬ happening.GivesUp lane.key →
      ∀ {handler}, ¬ handlers.Breaks handler →
        ∀ {passed sent}, Serves lane handler c passed sent →
          lane ∈ lanes' ∧
            Serves lane handler c'
              (passed ++ happening.passed lane.number)
              (sent ++ happening.sent root lane.key)

section Moves

variable {K : Key → Prop}
variable {root : String}
variable {handlers : Handlers H ω}
variable {lanes lanes' : List Lane}
variable {c c' : AmqpClient H ω}

/-
  Nothing is passed or sent, and the consumers of lanes that
  are not given up are the same.
-/
theorem upholds_of_kept
    {happening : Happening H}
    (hTidy' : Tidy K root lanes' c')
    (hPassed : ∀ n, happening.passed n = [])
    (hSent : ∀ key, happening.sent root key = [])
    (hKept :
      ∀ lane ∈ lanes, ¬ happening.GivesUp lane.key →
        lane ∈ lanes' ∧
          c'.state.transport.consumers[lane.number]? =
            c.state.transport.consumers[lane.number]?) :
    Upholds K root handlers lanes c happening lanes' c' where
  tidy := hTidy'
  serves := by
    intro lane hMember hSpared handler _ passed sent hServes
    rcases hKept lane hMember hSpared with ⟨hStill, hSame⟩
    rw [hPassed, hSent]
    exact ⟨hStill, hServes.same hSame⟩

variable (hTidy : Tidy K root lanes c)

include hTidy

/- Nothing is passed or sent, and nothing changes. -/
theorem upholds_refl
    {happening : Happening H}
    (hPassed : ∀ n, happening.passed n = [])
    (hSent : ∀ key, happening.sent root key = []) :
    Upholds K root handlers lanes c happening lanes c :=
  upholds_of_kept hTidy hPassed hSent fun _ hMember _ => ⟨hMember, rfl⟩

/- A message comes to wait on the lanes that it reaches. -/
theorem Tidy.upholds_publish
    {topic : String}
    {m : Message}
    {result : Except Fault Unit}
    (hAnswer : c.publish transport topic m = (result, c')) :
    Upholds K root handlers lanes c (.asked (.publish topic m) result)
      lanes c' := by
  rcases publish_cases hTidy.unclosed hTidy.isOpen topic m with
    ⟨fault, hRefused⟩ | ⟨subject, hBuild, hTaken⟩
  · cases hRefused.symm.trans hAnswer
    exact upholds_refl hTidy (fun _ => rfl) fun _ => rfl
  · cases hTaken.symm.trans hAnswer
    rw [hTidy.root_eq] at hBuild
    have hTold :=
      hTidy.tell
        (.publish c.state.transport.exchange subject properties m.encode)
    refine ⟨hTold.distribute subject m.encode, ?_⟩
    intro lane hMember _ handler _ passed sent hServes
    rcases hServes with ⟨x, hAt, hHandler, hCarried⟩
    have hAt' :=
      getElem?_distribute_lanes hTold.queues hTold.numbers subject
        m.encode lane.number
    simp only [Lane.mem_reached_iff hTidy.numbers hMember] at hAt'
    refine ⟨hMember, _, hAt'.trans (congrArg (Option.map _) hAt), ?_, ?_⟩
    · split
      · exact hHandler
      · exact hHandler
    · have hSent :
          (Happening.asked (.publish topic m) (.ok ()) :
              Happening H).sent root lane.key =
            if lane.accepts subject then [m.encode] else [] := by
        simp only [Happening.sent, hBuild]
        rfl
      rw [hSent]
      by_cases hReached : lane.accepts subject = true
      · simp [Happening.passed, hReached, Consumer.push, ← hCarried]
      · simp [Happening.passed, hReached, ← hCarried]

/- A key without a subscription is given one, or nothing changes. -/
theorem Tidy.upholds_subscribe
    [DecidableEq H]
    (hApart : Apart K)
    {keys : List Key}
    (hSane : Sane keys c)
    {key : Key}
    {handler : H}
    {result : Except Fault Unit}
    (hFresh : fresh K c (.subscribe key handler))
    (hAnswer : c.subscribe transport handlers key handler = (result, c')) :
    ∃ lanes',
      Upholds K root handlers lanes c
        (.asked (.subscribe key handler) result) lanes' c' ∧
      (result = .ok () →
        ∃ lane ∈ lanes', lane.key = key ∧
          Serves lane handler c' [] []) := by
  rcases hFresh with ⟨hChosen, hNew⟩
  have hFree : c.registry.table.get? key = none := by
    simpa [Registry.contains, Table.contains, hSane.usable] using hNew
  cases hCheck : key.check with
  | error fault =>
      rw [Client.subscribe_refused hTidy.unclosed hCheck] at hAnswer
      cases hAnswer
      exact ⟨lanes, upholds_refl hTidy (fun _ => rfl) fun _ => rfl, nofun⟩
  | ok checked =>
      rcases started_frame c.state.transport key handler with
        ⟨hConsumers, hOpen, -⟩
      have hBind :=
        bind_eq hSane.wired.calm hTidy.isOpen key handler
      rw [if_neg (hTidy.consumerTag_unused hApart hSane hChosen hFree)]
        at hBind
      rw [Client.subscribe_free hTidy.unclosed hSane.usable hCheck hFree
        rfl hBind] at hAnswer
      cases hAnswer
      have hQueues :=
        started_lanes hTidy.queues
          (hTidy.queueName_unused hApart hChosen hFree) handler
      have hTidy' :=
        hTidy.install hChosen hFree hConsumers hQueues
          (hOpen.trans hTidy.isOpen)
      refine ⟨_, upholds_of_kept hTidy' (fun _ => rfl) (fun _ => rfl) ?_, ?_⟩
      · intro lane hMember _
        refine ⟨List.mem_append_left _ hMember, ?_⟩
        rcases hTidy.fed hMember with ⟨x, hAt, -⟩
        change (c.state.transport.started key handler).consumers[_]? = _
        rw [hConsumers]
        exact List.getElem?_append_left (List.getElem?_eq_some_iff.mp hAt).1
      · intro _
        refine ⟨_, List.mem_append_right _ (List.mem_singleton_self _), rfl,
          ⟨handler, consumerTag key, true, []⟩, ?_, rfl, rfl⟩
        change (c.state.transport.started key handler).consumers[_]? = _
        rw [hConsumers]
        exact List.getElem?_concat_length

/- The subscription of a key is given up, or nothing changes. -/
theorem Tidy.upholds_unsubscribe
    [DecidableEq H]
    (hApart : Apart K)
    {keys : List Key}
    (hSane : Sane keys c)
    {key : Key}
    {result : Except Fault Unit}
    (hAnswer : c.unsubscribe transport handlers key = (result, c')) :
    ∃ lanes',
      Upholds K root handlers lanes c (.asked (.unsubscribe key) result)
        lanes' c' := by
  cases hCheck : key.check with
  | error fault =>
      rw [Client.unsubscribe_refused hTidy.unclosed hCheck] at hAnswer
      cases hAnswer
      exact ⟨lanes, upholds_refl hTidy (fun _ => rfl) fun _ => rfl⟩
  | ok checked =>
      cases hFound : c.registry.table.get? key with
      | none =>
          rw [Client.unsubscribe_free hTidy.unclosed hSane.usable hCheck
            hFound] at hAnswer
          cases hAnswer
          exact ⟨lanes, upholds_refl hTidy (fun _ => rfl) fun _ => rfl⟩
      | some old =>
          rcases hSane.registered hFound with ⟨-, x, hAt, -⟩
          have hUnbind :
              transport.unbind old.binding c.state.transport =
                (.ok (), (c.state.transport.abort old.binding).cancel x.tag) :=
            unbind_open hAt hTidy.isOpen
          rw [Client.unsubscribe_taken hTidy.unclosed hSane.usable hCheck
            hFound, hUnbind] at hAnswer
          cases hAnswer
          rcases hTidy.abort_cancel hApart hSane hFound hAt with
            ⟨hConsumers, hQueues, hOpen⟩
          refine ⟨_, upholds_of_kept (hTidy.retire rfl rfl hOpen hQueues
            hConsumers ?_ ?_) (fun _ => rfl) (fun _ => rfl) ?_⟩
          · intro other s hFound'
            change (c.registry.table.erase key).get? other = _ at hFound'
            rw [Table.get?_erase] at hFound'
            split at hFound'
            · cases hFound'
            · exact hFound'
          · intro lane hMember hOther
            change (c.registry.table.erase key).get? lane.key = _
            rw [Table.get?_erase, if_neg]
            intro hSame
            exact hOther
              ((hTidy.number_eq_iff hSane hFound hMember).mpr hSame.symm)
          · intro lane hMember hSpared
            have hOther : lane.number ≠ old.binding := by
              rw [Ne, hTidy.number_eq_iff hSane hFound hMember]
              exact fun hSame => hSpared hSame.symm
            refine ⟨List.mem_filter.mpr ⟨hMember, decide_eq_true hOther⟩, ?_⟩
            change ((c.state.transport.abort _).cancel _).consumers[_]? = _
            rw [hConsumers]
            exact List.getElem?_set_ne (Ne.symm hOther)

/- What waits for a consumer is passed on, or the consumer is ended. -/
theorem Tidy.upholds_deliver
    (hApart : Apart K)
    {keys : List Key}
    (hSane : Sane keys c)
    {n : Nat}
    {x : Consumer H}
    {octets : Octets}
    {rest : List Octets}
    (hAt : c.state.transport.consumers[n]? = some x)
    (hWaiting : x.waiting = octets :: rest) :
    ∃ lanes',
      Upholds K root handlers lanes c (.delivered n x.handler octets)
        lanes' (deliver handlers n c) := by
  have hHeld : x.held = true := by
    by_contra hFree
    rw [Bool.not_eq_true] at hFree
    cases hWaiting.symm.trans (hTidy.idle hAt hFree)
  rcases deliver_cases handlers hAt hWaiting with
    ⟨w, hTaken | ⟨hBreaks, hEnded⟩⟩
  · rw [hTaken]
    refine ⟨lanes, hTidy.take hAt hHeld rest w, ?_⟩
    intro lane hMember _ handler _ passed sent hServes
    refine ⟨hMember, ?_⟩
    by_cases hSame : n = lane.number
    · subst hSame
      rcases hServes with ⟨y, hAt', hHandler, hCarried⟩
      cases hAt.symm.trans hAt'
      refine ⟨{ x with waiting := rest },
        List.getElem?_set_self (List.getElem?_eq_some_iff.mp hAt).1,
        hHandler, ?_⟩
      rw [hWaiting] at hCarried
      simpa [Happening.passed, Happening.sent, hHandler] using hCarried
    · have hNone :
          (Happening.delivered n x.handler octets).passed lane.number = [] :=
        if_neg hSame
      rw [hNone]
      exact hServes.same (List.getElem?_set_ne hSame)
  · rcases hTidy.held hAt hHeld with ⟨own, hOwn, rfl⟩
    rcases hTidy.fed hOwn with ⟨y, hAt', -, hFound⟩
    cases hAt.symm.trans hAt'
    rcases hTidy.abort_cancel hApart hSane hFound hAt with
      ⟨hConsumers, hQueues, hOpen⟩
    rw [hEnded]
    refine ⟨_, hTidy.retire rfl rfl hOpen hQueues hConsumers id
      fun _ _ _ => rfl, ?_⟩
    intro lane hMember _ handler hUnbroken passed sent hServes
    -- The consumer that is ended had a handler that breaks.
    have hOther : lane.number ≠ own.number := by
      intro hSame
      rcases hServes with ⟨z, hAt'', hHandler, -⟩
      rw [hSame] at hAt''
      cases hAt.symm.trans hAt''
      exact hUnbroken (hHandler ▸ hBreaks)
    have hNone :
        (Happening.delivered own.number x.handler octets).passed
          lane.number = [] :=
      if_neg (Ne.symm hOther)
    rw [hNone]
    refine ⟨List.mem_filter.mpr ⟨hMember, decide_eq_true hOther⟩,
      hServes.same ?_⟩
    change ((c.state.transport.abort _).cancel _).consumers[_]? = _
    rw [hConsumers]
    exact List.getElem?_set_ne (Ne.symm hOther)

/- Whatever happens to a tidy client that is not closed. -/
theorem Tidy.move
    [DecidableEq H]
    (hApart : Apart K)
    {keys : List Key}
    (hSane : Sane keys c)
    {happening : Happening H}
    (hMove : Move (fresh K) handlers c happening c')
    (hStays : ¬ happening.Closes) :
    ∃ lanes', Upholds K root handlers lanes c happening lanes' c' := by
  cases hMove with
  | @asked ask result c' hPermitted hAnswer =>
      cases ask with
      | publish topic m => exact ⟨lanes, hTidy.upholds_publish hAnswer⟩
      | subscribe key handler =>
          rcases hTidy.upholds_subscribe hApart hSane hPermitted hAnswer with
            ⟨lanes', hUpholds, -⟩
          exact ⟨lanes', hUpholds⟩
      | unsubscribe key =>
          exact hTidy.upholds_unsubscribe hApart hSane hAnswer
      | ping patience =>
          cases hAnswer
          exact ⟨lanes, upholds_refl hTidy (fun _ => rfl) fun _ => rfl⟩
      | close => exact absurd trivial hStays
  | @delivered n x octets rest c' hAt hWaiting hDeliver =>
      exact hDeliver ▸ hTidy.upholds_deliver hApart hSane hAt hWaiting
  | reordered hReordered =>
      exact ⟨lanes, upholds_of_kept (hTidy.reordered hReordered)
        (fun _ => rfl) (fun _ => rfl) fun _ hMember _ => ⟨hMember, rfl⟩⟩

end Moves

------------------------------------------------------------
-- Runs
------------------------------------------------------------

section Runs

variable [DecidableEq H]
variable {permits : AmqpClient H ω → Ask H → Prop}
variable {K : Key → Prop}
variable {handlers : Handlers H ω}
variable {root : String}

/- A client that is open was open before, and nobody closed it. -/
theorem Move.unclosed
    {keys : List Key}
    {c c' : AmqpClient H ω}
    {happening : Happening H}
    (hMove : Move permits handlers c happening c')
    (hSane : Sane keys c)
    (hUnclosed : c'.state.closed = false) :
    c.state.closed = false ∧ ¬ happening.Closes := by
  constructor
  -- Nothing takes the mark back once it is set.
  · cases hMove.effect hSane with
    | kept hDeclines w => exact hUnclosed
    | removed hDeclines w key => exact hUnclosed
    | started hOpen => exact hOpen
    | shut hDeclines hRegistry hClosed => cases hClosed.symm.trans hUnclosed
    | reordered hReordered => exact hUnclosed
  · intro hCloses
    cases hMove with
    | @asked ask result c' hPermitted hAnswer =>
        cases ask with
        | close =>
            have hClosed := close_closes handlers hSane.usable
            change c.close transport handlers = _ at hAnswer
            rw [hAnswer] at hClosed
            cases hClosed.symm.trans hUnclosed
        | publish topic m => exact hCloses
        | subscribe key handler => exact hCloses
        | unsubscribe key => exact hCloses
        | ping patience => exact hCloses
    | delivered hAt hWaiting hDeliver => exact hCloses
    | reordered hReordered => exact hCloses

/- A client that is open is tidy. -/
theorem Run.tidy
    (hApart : Apart K)
    {exchange : String}
    {world : ω}
    {c : AmqpClient H ω}
    {happenings : List (Happening H)}
    (hRun :
      Run (fresh K) handlers (create root exchange world) happenings c)
    (hUnclosed : c.state.closed = false) :
    ∃ lanes, Tidy K root lanes c := by
  induction hRun with
  | start => exact ⟨[], tidy_create K root exchange world⟩
  | move hEarlier hMove ih =>
      rcases hEarlier.sane ⟨[], sane_create root exchange world⟩ with
        ⟨keys, hSane⟩
      rcases hMove.unclosed hSane hUnclosed with ⟨hBefore, hStays⟩
      rcases ih hBefore with ⟨lanes, hTidy⟩
      rcases hTidy.move hApart hSane hMove hStays with ⟨lanes', hUpholds⟩
      exact ⟨lanes', hUpholds.tidy⟩

/- What was sent on a lane that is spared is passed on, or waits. -/
theorem Run.serves
    (hApart : Apart K)
    {keys : List Key}
    {lanes : List Lane}
    {c c' : AmqpClient H ω}
    {lane : Lane}
    {handler : H}
    {happenings : List (Happening H)}
    (hRun : Run (fresh K) handlers c happenings c')
    (hSane : Sane keys c)
    (hTidy : Tidy K root lanes c)
    (hMember : lane ∈ lanes)
    (hServes : Serves lane handler c [] [])
    (hUnbroken : ¬ handlers.Breaks handler)
    (hSpared : ∀ happening ∈ happenings, happening.Spares lane.key) :
    ∃ lanes',
      Tidy K root lanes' c' ∧
      lane ∈ lanes' ∧
      Serves lane handler c'
        (happenings.flatMap (·.passed lane.number))
        (happenings.flatMap (·.sent root lane.key)) := by
  induction hRun with
  | start => exact ⟨lanes, hTidy, hMember, hServes⟩
  | @move happenings happening c c' hEarlier hMove ih =>
      rcases hEarlier.sane ⟨keys, hSane⟩ with ⟨keys', hSane'⟩
      -- The lane is still there after all but the last move.
      rcases ih fun other hOld =>
          hSpared other (List.mem_append_left _ hOld) with
        ⟨lanes', hTidy', hMember', hServes'⟩
      have hLast :=
        hSpared happening
          (List.mem_append_right _ (List.mem_singleton_self _))
      rcases hTidy'.move hApart hSane' hMove hLast.1 with
        ⟨lanes'', hUpholds⟩
      rcases hUpholds.serves hMember' hLast.2 hUnbroken hServes' with
        ⟨hMember'', hServes''⟩
      refine ⟨lanes'', hUpholds.tidy, hMember'', ?_⟩
      rw [List.flatMap_append, List.flatMap_append, List.flatMap_singleton,
        List.flatMap_singleton]
      exact hServes''

/-
  On a client of an AMQP server that works, take a key that was
  subscribed, and suppose that all keys can be told apart and
  none is subscribed while it has a subscription.  As long as
  nobody gives the key up or closes the client, and unless the
  handler breaks down, the server holds one consumer for the
  key, and all that is published under a subject that the key
  accepts is passed to the handler, or waits for it: once each,
  in the order of publishing, and nothing else.
-/
theorem subscribed_apart
    (hApart : Apart K)
    {exchange : String}
    {world : ω}
    {first c c' : AmqpClient H ω}
    {before after : List (Happening H)}
    {key : Key}
    {handler : H}
    (hBefore :
      Run (fresh K) handlers (create root exchange world) before first)
    (hSubscribed :
      Move (fresh K) handlers first
        (.asked (.subscribe key handler) (.ok ())) c)
    (hAfter : Run (fresh K) handlers c after c')
    (hSpared : ∀ happening ∈ after, happening.Spares key)
    (hUnbroken : ¬ handlers.Breaks handler) :
    ∃ n x,
      c'.registry.table.get? key = some ⟨handler, n⟩ ∧
      c'.state.transport.consumers[n]? = some x ∧
      x.held = true ∧
      after.flatMap (·.passed n) ++ x.waiting.map (handler, ·) =
        (after.flatMap (·.sent root key)).map (handler, ·) := by
  rcases hBefore.sane ⟨[], sane_create root exchange world⟩ with
    ⟨keys, hSane⟩
  rcases (hBefore.move hSubscribed).sane
      ⟨[], sane_create root exchange world⟩ with
    ⟨keys', hSane'⟩
  cases hSubscribed with
  | asked hFresh hAnswer =>
      -- A client that is closed would have refused the key.
      have hUnclosed : first.state.closed = false := by
        cases hClosed : first.state.closed with
        | false => rfl
        | true =>
            change first.subscribe transport handlers key handler = _
              at hAnswer
            rw [Client.subscribe_closed hClosed] at hAnswer
            cases hAnswer
      rcases hBefore.tidy hApart hUnclosed with ⟨lanes, hTidy⟩
      rcases hTidy.upholds_subscribe hApart hSane hFresh hAnswer with
        ⟨lanes', hUpholds, hNew⟩
      rcases hNew rfl with ⟨lane, hMember, rfl, hServes⟩
      rcases hAfter.serves hApart hSane' hUpholds.tidy hMember hServes
          hUnbroken hSpared with
        ⟨lanes'', hTidy', hMember', x, hAt, hHandler, hCarried⟩
      rcases hTidy'.fed hMember' with ⟨y, hAt', hHeld, hFound⟩
      cases hAt.symm.trans hAt'
      exact ⟨lane.number, x, hHandler ▸ hFound, hAt, hHeld, hCarried⟩

end Runs

/- The key of a subscription to the topic of one channel. -/
def nearby : Key where
  client := "neighbour"
  topic := "channels.c1"

/-
  A neighbour is subscribed, both are sent a message, the first
  one is passed it, and the neighbour leaves.
-/
def visit : List (Happening Unit) :=
  [.asked (.subscribe nearby ()) (.ok ()),
    .asked (.publish "c1" Session.greeting) (.ok ()),
    .delivered 0 () Session.greeting.encode,
    .asked (.unsubscribe nearby) (.ok ())]

/- The client ahead of the visit. -/
def hosting : AmqpClient Unit Unit :=
  ((create "channels" "messages" ()).subscribe transport Session.busy
    Session.listening ()).2

/- The client when the message waits for both. -/
def visited : AmqpClient Unit Unit :=
  ((hosting.subscribe transport Session.busy nearby ()).2.publish transport
    "c1" Session.greeting).2

/- The one that stays was passed what it was sent. -/
theorem visited_apart :
    Move (fresh Key.Plain) Session.busy (create "channels" "messages" ())
        (.asked (.subscribe Session.listening ()) (.ok ())) hosting ∧
      ∃ c,
        Run (fresh Key.Plain) Session.busy hosting visit c ∧
        ∃ n x,
          c.registry.table.get? Session.listening = some ⟨(), n⟩ ∧
          c.state.transport.consumers[n]? = some x ∧
          x.held = true ∧
          visit.flatMap (·.passed n) ++ x.waiting.map ((), ·) =
            (visit.flatMap (·.sent "channels" Session.listening)).map
              ((), ·) := by
  have hPlain : Session.listening.Plain := ⟨by decide, by decide⟩
  have hPlain' : nearby.Plain := ⟨by decide, by decide⟩
  have hSubscribed :
      Move (fresh Key.Plain) Session.busy (create "channels" "messages" ())
        (.asked (.subscribe Session.listening ()) (.ok ())) hosting :=
    .asked ⟨hPlain, rfl⟩ rfl
  have hArrived :
      Move (fresh Key.Plain) Session.busy hosting
        (.asked (.subscribe nearby ()) (.ok ()))
        (hosting.subscribe transport Session.busy nearby ()).2 :=
    .asked ⟨hPlain', rfl⟩ rfl
  have hGreeted :
      Move (fresh Key.Plain) Session.busy
        (hosting.subscribe transport Session.busy nearby ()).2
        (.asked (.publish "c1" Session.greeting) (.ok ())) visited :=
    .asked trivial rfl
  have hPassed :
      Move (fresh Key.Plain) Session.busy visited
        (.delivered 0 () Session.greeting.encode)
        (deliver Session.busy 0 visited) :=
    .delivered rfl rfl rfl
  have hLeft :
      Move (fresh Key.Plain) Session.busy (deliver Session.busy 0 visited)
        (.asked (.unsubscribe nearby) (.ok ()))
        ((deliver Session.busy 0 visited).unsubscribe transport Session.busy
          nearby).2 :=
    .asked trivial rfl
  have hVisit :
      Run (fresh Key.Plain) Session.busy hosting visit
        ((deliver Session.busy 0 visited).unsubscribe transport Session.busy
          nearby).2 :=
    (((Run.start.move hArrived).move hGreeted).move hPassed).move hLeft
  have hSpared :
      ∀ happening ∈ visit, happening.Spares Session.listening := by
    have hOther : nearby ≠ Session.listening := by decide
    simp only [visit, List.forall_mem_cons]
    exact ⟨⟨id, id⟩, ⟨id, id⟩, ⟨id, id⟩, ⟨id, hOther⟩,
      List.forall_mem_nil _⟩
  have hUnbroken : ¬ Session.busy.Breaks () := by
    rintro ⟨m, w, hBroken⟩
    cases hBroken
  exact ⟨hSubscribed, _, hVisit,
    subscribed_apart apart_plain .start hSubscribed hVisit hSpared
      hUnbroken⟩

/-
  Two keys that share a queue do get in each other's way: what
  the second one accepts waits for the first.
-/
example :
    let first : AmqpClient Unit Unit :=
      ((create "channels" "messages" ()).subscribe transport Session.busy
        ⟨"x", "channels.a.b"⟩ ()).2
    let both :=
      (first.subscribe transport Session.busy ⟨"b.x", "channels.a"⟩ ()).2
    let last :=
      (both.publish transport "a" { Session.greeting with channel := "a" }).2
    last.state.transport.consumers.map (·.waiting.length) = [1, 0] :=
  rfl

end Courier.Amqp
