import Courier.Proofs.Transport.Advance
import Courier.Proofs.Transport.NatsLine

/-
  A client of a NATS server on which anything may happen:
  calls take their steps, messages are published, those that
  wait on a subscription on the server are delivered, in any
  order, and the connection may be lost.

  Key definitions include:
    * `Nats.Session`, `Nats.Session.Step`
    * `Nats.Session.Reachable`
    * `Nats.Session.Moved`, `Nats.Session.Kept`

  Main statements:
    * `Nats.changed_of_step`
    * `Nats.Session.moved_of_step`
    * `Nats.Session.Kept.step`
-/

namespace Courier.Nats

open Registration

variable {H ω : Type}

------------------------------------------------------------
-- Sessions
------------------------------------------------------------

/- What feeds a handler that was just subscribed. -/
def Feed.fresh
    (key : Key)
    (handler : H) : Feed H where
  handler := handler
  streams := (patterns key.topic).map fun pattern => ⟨pattern, []⟩

/- A client of a NATS server, with all that was seen on it since. -/
structure Session (H ω : Type) where
  client : NatsClient H (Watch H ω)
  /- The messages that were published, with their subjects. -/
  taken : List (String × Message)
  /-
    What was passed to handlers, with the numbers of the feed
    and of the subscription on the server that it came from.
  -/
  handed : List ((Nat × Nat) × H × Message)

namespace Session

/- A client, from when somebody looks on. -/
def start
    (c : NatsClient H (Watch H ω)) : Session H ω where
  client := c
  taken := []
  handed := []

/- The feeds of all subscriptions so far. -/
def feeds
    (s : Session H ω) : List (Feed H) :=
  s.client.state.transport.feeds

/- What may happen next. -/
inductive Step
    [DecidableEq H]
    (handlers : Handlers H ω)
    (s : Session H ω) : Session H ω → Prop where
  /- A call to subscribe, unsubscribe or close takes a step. -/
  | call
      {call call' : Client.Call H Nat}
      {client' : NatsClient H (Watch H ω)}
      (hStep :
        call.step transport handlers.watched s.client =
          (call', client')) :
      Step handlers s { s with client := client' }
  /- Somebody publishes a message, under the subject of its topic. -/
  | publish
      (topic : String)
      {m : Message}
      {subject : String}
      {client' : NatsClient H (Watch H ω)}
      (hFits : m.Fits)
      (hSubject :
        Topic.build s.client.state.root topic m.subtopic = .ok subject)
      (hPublish :
        Client.publish transport topic m s.client = (.ok (), client')) :
      Step handlers s
        { s with
          client := client'
          taken := s.taken ++ [(subject, m)] }
  /- Somebody fails to publish a message. -/
  | refuse
      (topic : String)
      {m : Message}
      {fault : Fault}
      {client' : NatsClient H (Watch H ω)}
      (hPublish :
        Client.publish transport topic m s.client =
          (.error fault, client')) :
      Step handlers s { s with client := client' }
  /- The first message of a subscription on the server is delivered. -/
  | deliver
      (n k : Nat) :
      Step handlers s
        { s with
          client := deliver handlers.watched n k s.client
          handed :=
            s.handed ++
              ((deliver handlers.watched n k
                  s.client).state.world.seen.drop
                s.client.state.world.seen.length).map ((n, k), ·) }
  /- The connection is lost. -/
  | lose
      (detail : String) :
      Step handlers s
        { s with
          client :=
            s.client.withTransport (s.client.state.transport.lose detail) }
  /- The subscriptions are read in another order from now on. -/
  | reorder
      {r : Registry H Nat}
      (hReordered : s.client.registry.Reordered r) :
      Step handlers s { s with client := { s.client with registry := r } }

/- What can come after some steps, if something holds all the time. -/
inductive Reachable
    [DecidableEq H]
    (handlers : Handlers H ω)
    (p : Session H ω → Prop)
    (first : Session H ω) : Session H ω → Prop where
  | start
      (hHolds : p first) :
      Reachable handlers p first first
  | step
      {s s' : Session H ω}
      (hEarlier : Reachable handlers p first s)
      (hStep : Step handlers s s')
      (hHolds : p s') :
      Reachable handlers p first s'

section Reachable

variable [DecidableEq H]
variable {handlers : Handlers H ω}
variable {p q : Session H ω → Prop}
variable {first s : Session H ω}

theorem Reachable.holds
    (hReachable : Reachable handlers p first s) :
    p s := by
  cases hReachable with
  | start hHolds => exact hHolds
  | step hEarlier hStep hHolds => exact hHolds

/- What holds whenever something comes, holds all the time. -/
theorem Reachable.strengthen
    (hReachable : Reachable handlers p first s)
    (hAlways : ∀ {s}, Reachable handlers p first s → q s) :
    Reachable handlers q first s := by
  induction hReachable with
  | start hHolds => exact .start (hAlways (.start hHolds))
  | step hEarlier hStep hHolds ih =>
      exact ih.step hStep (hAlways (hEarlier.step hStep hHolds))

end Reachable

/- What was passed on from one subscription on the server. -/
def handedOn
    (s : Session H ω)
    (n k : Nat) : List (H × Message) :=
  (s.handed.filter (·.1 = (n, k))).map (·.2)

/- What was passed on from all of those of a feed. -/
def handedTo
    (s : Session H ω)
    (n : Nat) : List (H × Message) :=
  (s.handed.filter (·.1.1 = n)).map (·.2)

/- The messages that a subscription on the server accepts. -/
def accepted
    (s : Session H ω)
    (pattern : String) : List Message :=
  (s.taken.filter fun x => accepts pattern x.1).map (·.2)

/- The messages that match a pattern, in the order of publishing. -/
def matching
    (s : Session H ω)
    (topic : String) : List Message :=
  (s.taken.filter fun x =>
    (patterns topic).any fun pattern => accepts pattern x.1).map (·.2)

/- What was passed on from some chosen ones of those of a feed. -/
def handedFrom
    (s : Session H ω)
    (n : Nat)
    (chosen : Nat → Bool) : List (H × Message) :=
  (s.handed.filter fun x => x.1.1 = n ∧ chosen x.1.2 = true).map (·.2)

end Session

------------------------------------------------------------
-- Steps
------------------------------------------------------------

/- What a step of a call may do to the feeds of a client. -/
inductive Changed
    (b : Broker H) : Broker H → Prop where
  | same : Changed b b
  | joined
      (key : Key)
      (handler : H) : Changed b (b.extend key handler)
  | ended
      (m : Nat) : Changed b (unbind m b).2

/- A feed is made for a key, if the connection is there. -/
theorem changed_bind
    (key : Key)
    (handler : H)
    (b : Broker H) :
    Changed b (bind key handler b).2 := by
  unfold bind
  split
  · exact .same
  · exact .joined key handler

/- It passes nothing to a handler. -/
theorem changed_of_step
    [DecidableEq H]
    {handlers : Handlers H ω}
    {call call' : Client.Call H Nat}
    {c c' : NatsClient H (Watch H ω)}
    (hStep : call.step transport handlers.watched c = (call', c')) :
    Changed c.state.transport c'.state.transport ∧
      c'.state.root = c.state.root ∧
      c'.state.world.seen = c.state.world.seen := by
  cases Client.Call.stepped_of_step hStep with
  | @within inner hInner hInner' =>
      cases inner with
      | accessing a => exact ⟨.same, rfl, rfl⟩
      | cancelling handler next => exact ⟨.same, rfl, rfl⟩
      | binding key handler old => exact ⟨changed_bind key handler _, rfl, rfl⟩
      | unbinding m next => exact ⟨.ended m, rfl, rfl⟩
      | done result => exact ⟨.same, rfl, rfl⟩
  | marked closed hBefore hAfter => exact ⟨.same, rfl, rfl⟩
  | disconnected hBefore hAfter => exact ⟨.same, rfl, rfl⟩

/-
  A message is published under the subject of its topic, and
  goes to the feeds that accept that, or nothing happens.
-/
theorem publish_cases
    {topic : String}
    {m : Message}
    {result : Except Fault Unit}
    {c c' : NatsClient H ω}
    (hPublish : Client.publish transport topic m c = (result, c')) :
    ((∃ fault, result = .error fault) ∧ c' = c) ∨
      result = .ok () ∧
      ∃ subject,
        Topic.build c.state.root topic m.subtopic = .ok subject ∧
        c' =
          c.withTransport
            ((c.state.transport.tell
                [.publish subject m.encode]).distribute
              subject m.encode) := by
  unfold Client.publish at hPublish
  split at hPublish
  · rename_i fault _
    cases hPublish
    exact Or.inl ⟨⟨fault, rfl⟩, rfl⟩
  · split at hPublish
    · cases hPublish
      exact Or.inl ⟨⟨.closed, rfl⟩, rfl⟩
    · split at hPublish
      · rename_i fault _
        cases hPublish
        exact Or.inl ⟨⟨fault, rfl⟩, rfl⟩
      · split at hPublish
        · rename_i fault _
          cases hPublish
          exact Or.inl ⟨⟨fault, rfl⟩, rfl⟩
        · rename_i subject hSubject
          simp only [transport, send] at hPublish
          split at hPublish
          · cases hPublish
            exact Or.inl ⟨⟨_, rfl⟩, rfl⟩
          · split at hPublish
            · rename_i fault _
              cases hPublish
              exact Or.inl ⟨⟨fault, rfl⟩, rfl⟩
            · cases hPublish
              exact Or.inr ⟨rfl, subject, hSubject, rfl⟩

/-
  A delivery takes the first payload of one stream.  The feed
  is over if its handler broke down, and others stay.
-/
theorem feeds_deliver
    (handlers : Handlers H ω)
    {c : NatsClient H ω}
    {m k : Nat}
    {feed : Feed H}
    {pattern : String}
    {first : Octets}
    {rest : List Octets}
    (hFeed : c.state.transport.feeds[m]? = some feed)
    (hStream : feed.streams[k]? = some ⟨pattern, first :: rest⟩) :
    ((deliver handlers m k c).state.transport.feeds[m]? =
          some { feed with streams := feed.streams.set k ⟨pattern, rest⟩ } ∨
        (deliver handlers m k c).state.transport.feeds[m]? =
          some { feed with streams := [] }) ∧
      ∀ n, m ≠ n →
        (deliver handlers m k c).state.transport.feeds[n]? =
          c.state.transport.feeds[n]? := by
  have hLength := (List.getElem?_eq_some_iff.mp hFeed).1
  rw [deliver_eq hFeed hStream]
  cases (handlers.receive feed.handler first c.state.world).1 with
  | true =>
      refine ⟨Or.inl (List.getElem?_set_self hLength), ?_⟩
      intro n hOther
      exact List.getElem?_set_ne hOther
  | false =>
      refine ⟨Or.inr ?_, ?_⟩
      · change ((c.state.transport.feeds.set m _).modify m _)[m]? = _
        rw [List.getElem?_modify, List.getElem?_set_self hLength]
        simp
      · intro n hOther
        change ((c.state.transport.feeds.set m _).modify m _)[n]? = _
        rw [List.getElem?_modify, List.getElem?_set_ne hOther]
        simp [hOther]

namespace Session

/- What is passed on from one subscription on the server counts once. -/
theorem handedFrom_append
    (s : Session H ω)
    (m k n : Nat)
    (passed : List (H × Message))
    (client' : NatsClient H (Watch H ω))
    (chosen : Nat → Bool) :
    handedFrom
        { client := client'
          taken := s.taken
          handed := s.handed ++ passed.map ((m, k), ·) } n chosen =
      s.handedFrom n chosen ++
        if m = n ∧ chosen k = true then passed else [] := by
  unfold handedFrom
  rw [List.filter_append, List.map_append]
  congr 1
  split
  · rename_i hHere
    rw [List.filter_eq_self.mpr, List.map_map]
    · exact List.map_id _
    · intro x hMember
      rcases List.mem_map.mp hMember with ⟨y, -, rfl⟩
      exact decide_eq_true hHere
  · rename_i hThere
    rw [List.filter_eq_nil_iff.mpr]
    · rfl
    · intro x hMember
      rcases List.mem_map.mp hMember with ⟨y, -, rfl⟩
      simpa using hThere

section Moved

variable {handlers : Handlers H ω}

/- All that a step can do to one feed. -/
inductive Moved
    (handlers : Handlers H ω)
    (n : Nat)
    (feed : Feed H)
    (s s' : Session H ω) : Prop where
  /- Nothing that concerns the feed. -/
  | apart
      (hFeed : s'.feeds[n]? = some feed)
      (hTaken : s'.taken = s.taken)
      (hHanded :
        ∀ chosen, s'.handedFrom n chosen = s.handedFrom n chosen)
  /- The feed is over. -/
  | ended
      (hFeed : s'.feeds[n]? = some { feed with streams := [] })
      (hTaken : s'.taken = s.taken)
      (hHanded :
        ∀ chosen, s'.handedFrom n chosen = s.handedFrom n chosen)
  /- A message was published. -/
  | published
      {subject : String}
      {m : Message}
      (hFits : m.Fits)
      (hFeed :
        s'.feeds[n]? =
          some
            { feed with
              streams :=
                feed.streams.map (Stream.push subject m.encode) })
      (hTaken : s'.taken = s.taken ++ [(subject, m)])
      (hHanded :
        ∀ chosen, s'.handedFrom n chosen = s.handedFrom n chosen)
  /- A payload was passed on; the feed may be over by that. -/
  | passed
      {k : Nat}
      {pattern : String}
      {octets : Octets}
      {rest : List Octets}
      (hStream : feed.streams[k]? = some ⟨pattern, octets :: rest⟩)
      (hFeed :
        s'.feeds[n]? =
            some
              { feed with streams := feed.streams.set k ⟨pattern, rest⟩ } ∨
          s'.feeds[n]? = some { feed with streams := [] })
      (hTaken : s'.taken = s.taken)
      (hHanded :
        ∀ chosen,
          s'.handedFrom n chosen =
            s.handedFrom n chosen ++
              if chosen k then
                (handlers.watched.receive feed.handler octets
                    s.client.state.world).2.seen.drop
                  s.client.state.world.seen.length
              else
                [])

section Feed

variable {n : Nat}
variable {feed : Feed H}
variable {s : Session H ω}
variable (hFeed : s.feeds[n]? = some feed)

include hFeed

/- A delivery concerns the feed if it takes from its streams. -/
theorem moved_of_deliver
    (handlers : Handlers H ω)
    (m k : Nat) :
    Moved handlers n feed s
      { s with
        client := deliver handlers.watched m k s.client
        handed :=
          s.handed ++
            ((deliver handlers.watched m k
                s.client).state.world.seen.drop
              s.client.state.world.seen.length).map ((m, k), ·) } := by
  have hHanded :=
    fun chosen =>
      handedFrom_append s m k n
        ((deliver handlers.watched m k s.client).state.world.seen.drop
          s.client.state.world.seen.length)
        (deliver handlers.watched m k s.client) chosen
  rcases deliver_cases handlers.watched m k s.client with
    hNone | ⟨other, pattern, octets, rest, hOther, hStream⟩
  · refine .apart ?_ rfl ?_
    · exact (congrArg (·.state.transport.feeds[n]?) hNone).trans hFeed
    · intro chosen
      rw [hHanded, hNone, List.drop_length]
      simp
  · rcases feeds_deliver handlers.watched hOther hStream with
      ⟨hHere, hElsewhere⟩
    by_cases hSame : m = n
    · subst hSame
      cases hOther.symm.trans hFeed
      refine .passed hStream hHere rfl ?_
      intro chosen
      rw [hHanded, deliver_eq hOther hStream]
      simp only [true_and]
      rfl
    · refine .apart ((hElsewhere n hSame).trans hFeed) rfl ?_
      intro chosen
      rw [hHanded]
      simp [hSame]

variable [DecidableEq H]

/- A step of a call may end the feed. -/
theorem moved_of_call
    {call call' : Client.Call H Nat}
    {client' : NatsClient H (Watch H ω)}
    (hStep :
      call.step transport handlers.watched s.client = (call', client')) :
    Moved handlers n feed s { s with client := client' } := by
  rcases changed_of_step hStep with ⟨hChanged, -, -⟩
  have hLength := (List.getElem?_eq_some_iff.mp hFeed).1
  generalize hAfter : client'.state.transport = b' at hChanged
  cases hChanged with
  | same =>
      refine .apart ?_ rfl fun _ => rfl
      change client'.state.transport.feeds[n]? = _
      rw [hAfter]
      exact hFeed
  | joined key handler =>
      refine .apart ?_ rfl fun _ => rfl
      change client'.state.transport.feeds[n]? = _
      rw [hAfter]
      exact (List.getElem?_append_left hLength).trans hFeed
  | ended m =>
      have hEnded :
          client'.state.transport.feeds[n]? =
            some (if m = n then { feed with streams := [] } else feed) := by
        rw [hAfter]
        change (s.feeds.modify m _)[n]? = _
        rw [List.getElem?_modify, hFeed]
        rfl
      split at hEnded
      · exact .ended hEnded rfl fun _ => rfl
      · exact .apart hEnded rfl fun _ => rfl

end Feed

theorem moved_of_step
    [DecidableEq H]
    {s s' : Session H ω}
    (hStep : Step handlers s s')
    {n : Nat}
    {feed : Feed H}
    (hFeed : s.feeds[n]? = some feed) :
    Moved handlers n feed s s' := by
  cases hStep with
  | call hStep => exact moved_of_call hFeed hStep
  | @publish topic m subject client' hFits hSubject hPublish =>
      rcases publish_cases hPublish with
        ⟨⟨fault, hFault⟩, -⟩ | ⟨-, other, hOther, rfl⟩
      · cases hFault
      · cases hSubject.symm.trans hOther
        refine .published hFits ?_ rfl fun _ => rfl
        change (s.feeds.map _)[n]? = _
        rw [List.getElem?_map, hFeed]
        rfl
  | refuse topic hPublish =>
      rcases publish_cases hPublish with ⟨-, rfl⟩ | ⟨hOk, -⟩
      · exact .apart hFeed rfl fun _ => rfl
      · cases hOk
  | deliver m k => exact moved_of_deliver hFeed handlers m k
  | lose detail => exact .apart hFeed rfl fun _ => rfl
  | reorder hReordered => exact .apart hFeed rfl fun _ => rfl

end Moved

------------------------------------------------------------
-- What handlers are passed, and what was published
------------------------------------------------------------

/- A handler that receives something only adds to what was seen. -/
theorem receive_grows
    (handlers : Handlers H ω)
    (handler : H)
    (octets : Octets)
    (w : Watch H ω) :
    ∃ more,
      (handlers.watched.receive handler octets w).2.seen =
        w.seen ++ more := by
  unfold Handlers.receive
  split
  · exact ⟨[], (List.append_nil _).symm⟩
  · rename_i m hDecode
    refine ⟨[(handler, m)], ?_⟩
    dsimp only [Handlers.watched]
    split
    · rfl
    · rfl

section Frame

variable [DecidableEq H]
variable {handlers : Handlers H ω}
variable {s s' : Session H ω}

/-
  A step passes nothing to handlers but in deliveries, and
  messages are published under the subjects of their topics.
-/
structure Kept
    (c : NatsClient H (Watch H ω))
    (s : Session H ω) : Prop where
  noted :
    s.client.state.world.seen =
      c.state.world.seen ++ s.handed.map (·.2)
  root : s.client.state.root = c.state.root
  built :
    ∀ x ∈ s.taken, ∃ topic,
      Topic.build c.state.root topic x.2.subtopic = .ok x.1

theorem Kept.step
    {c : NatsClient H (Watch H ω)}
    (hKept : Kept c s)
    (hStep : Step handlers s s') :
    Kept c s' := by
  cases hStep with
  | call hStep =>
      rcases changed_of_step hStep with ⟨-, hRoot, hSeen⟩
      exact
        ⟨hSeen.trans hKept.noted, hRoot.trans hKept.root, hKept.built⟩
  | publish topic hFits hSubject hPublish =>
      rcases publish_cases hPublish with
        ⟨⟨fault, hFault⟩, -⟩ | ⟨-, other, -, rfl⟩
      · cases hFault
      · refine ⟨hKept.noted, hKept.root, ?_⟩
        intro x hMember
        rcases List.mem_append.mp hMember with hOld | hNew
        · exact hKept.built x hOld
        · cases List.mem_singleton.mp hNew
          rw [hKept.root] at hSubject
          exact ⟨topic, hSubject⟩
  | refuse topic hPublish =>
      rcases publish_cases hPublish with ⟨-, rfl⟩ | ⟨hOk, -⟩
      · exact hKept
      · cases hOk
  | deliver m k =>
      have hFrame :
          (deliver handlers.watched m k s.client).state.root =
              s.client.state.root ∧
            ∃ more,
              (deliver handlers.watched m k s.client).state.world.seen =
                s.client.state.world.seen ++ more := by
        rcases deliver_cases handlers.watched m k s.client with
          hNone | ⟨feed, pattern, octets, rest, hFeed, hStream⟩
        · rw [hNone]
          exact ⟨rfl, [], (List.append_nil _).symm⟩
        · rw [deliver_eq hFeed hStream]
          exact
            ⟨rfl, receive_grows handlers feed.handler octets
              s.client.state.world⟩
      rcases hFrame with ⟨hRoot, more, hSeen⟩
      refine ⟨?_, hRoot.trans hKept.root, hKept.built⟩
      rw [hSeen, List.drop_left, List.map_append, List.map_map,
        ← List.append_assoc, ← hKept.noted]
      exact congrArg _ (List.map_id more).symm
  | lose detail => exact ⟨hKept.noted, hKept.root, hKept.built⟩
  | reorder hReordered => exact ⟨hKept.noted, hKept.root, hKept.built⟩

theorem Reachable.kept
    {p : Session H ω → Prop}
    {c : NatsClient H (Watch H ω)}
    (hReachable : Reachable handlers p (Session.start c) s) :
    Kept c s := by
  induction hReachable with
  | start hHolds => exact ⟨(List.append_nil _).symm, rfl, nofun⟩
  | step _ hStep hHolds ih => exact ih.step hStep

end Frame

end Session

end Courier.Nats
