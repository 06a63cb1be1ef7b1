import Courier.Nats.Broker
import Courier.Proofs.Topic.Routing
import Courier.Proofs.Transport.Lawful

/-
  This file shows that a NATS server is lawful for messages of
  the size that it takes.  The feed of a subscription is its
  box, with all that waits on the subscriptions on the server.
  Of these, exactly one has each message that is covered.

  Key definitions include:
    * `Nats.Feed.box`
    * `Nats.line`
    * `Nats.Fitting`

  Main statements:
    * `Nats.backlog_push`
    * `Nats.lawful`
-/

namespace Courier.Nats

open Registration

variable {H ω : Type}

------------------------------------------------------------
-- Streams
------------------------------------------------------------

/- All payloads that wait on some subscriptions on the server. -/
def backlog
    (streams : List Stream) : List Octets :=
  streams.flatMap (·.waiting)

@[simp]
theorem backlog_nil :
    backlog [] = [] :=
  rfl

/- Where nothing waits, a payload is taken once for each acceptance. -/
theorem backlog_push
    {streams : List Stream}
    (hEmpty : backlog streams = [])
    (subject : String)
    (octets : Octets) :
    backlog (streams.map (Stream.push subject octets)) =
      List.replicate
        ((streams.map (·.pattern)).filter fun pattern =>
          accepts pattern subject).length
        octets := by
  unfold backlog at hEmpty ⊢
  induction streams with
  | nil => rfl
  | cons s rest ih =>
      rw [List.flatMap_cons, List.append_eq_nil_iff] at hEmpty
      rw [List.map_cons, List.flatMap_cons, ih hEmpty.2, List.map_cons,
        List.filter_cons, Stream.push, hEmpty.1]
      split
      · rfl
      · exact congrArg (· ++ _) hEmpty.1

/- Payloads do not change what a stream is subscribed under. -/
theorem patterns_push
    (streams : List Stream)
    (subject : String)
    (octets : Octets) :
    (streams.map (Stream.push subject octets)).map (·.pattern) =
      streams.map (·.pattern) := by
  rw [List.map_map]
  apply List.map_congr_left
  intro s _
  simp only [Function.comp_apply, Stream.push]
  split
  · rfl
  · rfl

/- The last payload that waits is on one of the streams only. -/
theorem backlog_last
    {streams : List Stream}
    {octets first : Octets}
    {rest : List Octets}
    {pattern : String}
    {k : Nat}
    (hBacklog : backlog streams = [octets])
    (hAt : streams[k]? = some ⟨pattern, first :: rest⟩) :
    first = octets ∧ rest = [] ∧
      backlog (streams.set k ⟨pattern, []⟩) = [] := by
  unfold backlog at hBacklog ⊢
  induction streams generalizing k with
  | nil => simp at hAt
  | cons s others ih =>
      rw [List.flatMap_cons] at hBacklog
      cases k with
      | zero =>
          have hFirst : s = ⟨pattern, first :: rest⟩ := by simpa using hAt
          rw [hFirst] at hBacklog
          simp only [List.cons_append, List.cons.injEq,
            List.append_eq_nil_iff] at hBacklog
          rcases hBacklog with ⟨rfl, rfl, hNone⟩
          exact ⟨rfl, rfl, hNone⟩
      | succ k =>
          have hRest : others[k]? = some ⟨pattern, first :: rest⟩ := by
            simpa using hAt
          have hSome : others.flatMap (·.waiting) ≠ [] := by
            intro hNone
            rw [List.flatMap_eq_nil_iff] at hNone
            exact absurd (hNone _ (List.mem_of_getElem? hRest)) nofun
          have hEmpty : s.waiting = [] := by
            cases hWaiting : s.waiting with
            | nil => rfl
            | cons x xs =>
                rw [hWaiting, List.cons_append, List.cons.injEq,
                  List.append_eq_nil_iff] at hBacklog
                exact absurd hBacklog.2.2 hSome
          rw [hEmpty, List.nil_append] at hBacklog
          rcases ih hBacklog hRest with ⟨hFirst, hLast, hNone⟩
          refine ⟨hFirst, hLast, ?_⟩
          rw [List.set_cons_succ, List.flatMap_cons, hEmpty, hNone]
          rfl

/- Delivering from a stream leaves what it is subscribed under. -/
theorem patterns_set
    {streams : List Stream}
    {pattern : String}
    {waiting : List Octets}
    {k : Nat}
    (hAt : streams[k]? = some ⟨pattern, waiting⟩)
    (rest : List Octets) :
    (streams.set k ⟨pattern, rest⟩).map (·.pattern) =
      streams.map (·.pattern) :=
  Pool.map_set_of_same hAt rfl

------------------------------------------------------------
-- Feeds as boxes
------------------------------------------------------------

/- What a feed is to clients. -/
def Feed.box
    (feed : Feed H) : Box H where
  handler := feed.handler
  live := !feed.streams.isEmpty
  waiting := backlog feed.streams

/-
  A NATS server, which delivers from each subscription that it
  holds for a feed.
-/
def line : Line H (Broker H) ω (Nat × Nat) where
  transport := transport
  boxes := fun b => b.feeds.map Feed.box
  deliver := fun handlers place => deliver handlers place.1 place.2

/- The connection to a server is there. -/
def Broker.Serves
    (server : Server)
    (b : Broker H) : Prop :=
  b.maxPayload = server.maxPayload ∧ b.delay = server.delay ∧
    b.lost = none

/- A feed that is not over is subscribed as its key calls for. -/
structure Fitting
    (server : Server)
    (keys : List Key)
    (b : Broker H) : Prop where
  serves : b.Serves server
  subscribed :
    ∀ {n : Nat} {feed key},
      b.feeds[n]? = some feed → keys[n]? = some key →
        feed.streams = [] ∨
          feed.streams.map (·.pattern) = patterns key.topic

/- Patterns are called for, whatever the topic is. -/
theorem patterns_ne_nil
    (topic : String) :
    patterns topic ≠ [] := by
  unfold patterns
  split
  · exact nofun
  · exact nofun

/- A message goes to a feed once, if its key covers the subject. -/
theorem box_push
    {feed : Feed H}
    {key : Key}
    {subject : String}
    (hStreams :
      feed.streams = [] ∨
        feed.streams.map (·.pattern) = patterns key.topic)
    (hEmpty : feed.box.waiting = [])
    (hPattern : Topic.IsPattern key.topic)
    (hSubject : Topic.IsSubject subject)
    (octets : Octets) :
    Feed.box
        { feed with streams := feed.streams.map (Stream.push subject octets) } =
      feed.box.post subject octets key := by
  have hBacklog := backlog_push hEmpty subject octets
  rcases hStreams with hOver | hOpen
  · simp [Feed.box, Box.post, hOver]
  · rw [hOpen, count_accepting hPattern hSubject] at hBacklog
    have hSome : feed.streams.isEmpty = false := by
      cases hNone : feed.streams with
      | nil =>
          rw [hNone] at hOpen
          exact absurd hOpen.symm (patterns_ne_nil key.topic)
      | cons s rest => rfl
    have hWaiting : backlog feed.streams = [] := hEmpty
    cases hCovers : Topic.covers key.topic subject with
    | false =>
        rw [hCovers] at hBacklog
        simp [Feed.box, Box.post, hCovers, hBacklog, hWaiting]
    | true =>
        rw [hCovers] at hBacklog
        simp [Feed.box, Box.post, hCovers, hBacklog, hWaiting, hSome]

/- So it does for all feeds together. -/
theorem boxes_distribute
    {server : Server}
    {keys : List Key}
    {r : Registry H Nat}
    {b : Broker H}
    {subject : String}
    (hFitting : Fitting server keys b)
    (hTallied : Tallied keys r (b.feeds.map Feed.box))
    (hEmpty : AllEmpty (b.feeds.map Feed.box))
    (hSubject : Topic.IsSubject subject)
    (octets : Octets) :
    (b.distribute subject octets).feeds.map Feed.box =
      List.zipWith (Box.post subject octets) keys
        (b.feeds.map Feed.box) := by
  unfold Broker.distribute
  apply List.ext_getElem?
  intro n
  rw [List.getElem?_map, List.getElem?_map, List.getElem?_zipWith,
    List.getElem?_map]
  cases hFeed : b.feeds[n]? with
  | none =>
      cases keys[n]? with
      | none => rfl
      | some key => rfl
  | some feed =>
      have hBox : (b.feeds.map Feed.box)[n]? = some feed.box := by
        rw [List.getElem?_map, hFeed]
        rfl
      cases hKey : keys[n]? with
      | none =>
          have hLength := hTallied.length
          have hBound := (List.getElem?_eq_some_iff.mp hBox).1
          have hOut := List.getElem?_eq_none_iff.mp hKey
          omega
      | some key =>
          have hPushed :=
            box_push (hFitting.subscribed hFeed hKey)
              (hEmpty feed.box (List.mem_of_getElem? hBox))
              (hTallied.patterns key (List.mem_of_getElem? hKey))
              hSubject octets
          exact congrArg some hPushed

/- All feeds stay subscribed when payloads come. -/
theorem Fitting.distribute
    {server : Server}
    {keys : List Key}
    {b : Broker H}
    (hFitting : Fitting server keys b)
    (subject : String)
    (octets : Octets) :
    Fitting server keys (b.distribute subject octets) := by
  constructor
  · exact hFitting.serves
  · intro n feed key hAt hKey
    change (b.feeds.map _)[n]? = _ at hAt
    rw [List.getElem?_map] at hAt
    rcases Option.map_eq_some_iff.mp hAt with ⟨old, hOld, rfl⟩
    rcases hFitting.subscribed hOld hKey with hOver | hOpen
    · left
      simp [hOver]
    · right
      exact (patterns_push old.streams subject octets).trans hOpen

/- A feed that is over is a box that is shut, if nothing waits. -/
theorem boxes_finish
    {b : Broker H}
    (hEmpty : AllEmpty (b.feeds.map Feed.box))
    (n : Nat) :
    (b.finish n).feeds.map Feed.box =
      (b.feeds.map Feed.box).modify n Box.shut := by
  apply Pool.map_modify
  intro feed hMember
  have hWaiting : backlog feed.streams = [] :=
    hEmpty feed.box (List.mem_map_of_mem hMember)
  simp [Feed.box, Box.shut, hWaiting]

/- Ending a feed leaves all others subscribed. -/
theorem Fitting.finish
    {server : Server}
    {keys : List Key}
    {b : Broker H}
    (hFitting : Fitting server keys b)
    (n : Nat) :
    Fitting server keys (b.finish n) := by
  constructor
  · exact hFitting.serves
  · intro m feed key hAt hKey
    change (b.feeds.modify n _)[m]? = _ at hAt
    rw [List.getElem?_modify] at hAt
    rcases Option.map_eq_some_iff.mp hAt with ⟨old, hOld, rfl⟩
    split
    · exact Or.inl rfl
    · exact hFitting.subscribed hOld hKey

/- A delivery from one stream leaves all feeds subscribed. -/
theorem Fitting.set
    {server : Server}
    {keys : List Key}
    {b : Broker H}
    {n k : Nat}
    {feed : Feed H}
    {pattern : String}
    {waiting : List Octets}
    (hFitting : Fitting server keys b)
    (hFeed : b.feeds[n]? = some feed)
    (hStream : feed.streams[k]? = some ⟨pattern, waiting⟩)
    (rest : List Octets) :
    Fitting server keys
      { b with
        feeds := b.feeds.set n
          { feed with streams := feed.streams.set k ⟨pattern, rest⟩ } } := by
  constructor
  · exact hFitting.serves
  · intro m other key hAt hKey
    rcases Pool.stepped_cases hAt with ⟨rfl, rfl⟩ | ⟨-, hOld⟩
    · rcases hFitting.subscribed hFeed hKey with hOver | hOpen
      · rw [hOver] at hStream
        exact absurd hStream nofun
      · exact Or.inr ((patterns_set hStream rest).trans hOpen)
    · exact hFitting.subscribed hOld hKey

------------------------------------------------------------
-- Deliveries
------------------------------------------------------------

/- A delivery does nothing, or passes on what is first in a stream. -/
theorem deliver_cases
    (handlers : Handlers H ω)
    (n k : Nat)
    (c : NatsClient H ω) :
    deliver handlers n k c = c ∨
      ∃ feed pattern octets rest,
        c.state.transport.feeds[n]? = some feed ∧
        feed.streams[k]? = some ⟨pattern, octets :: rest⟩ := by
  unfold deliver
  dsimp only
  split
  · exact Or.inl rfl
  · rename_i feed hFeed
    split
    · rename_i pattern octets rest hStream
      exact Or.inr ⟨feed, pattern, octets, rest, hFeed, hStream⟩
    · exact Or.inl rfl

section Deliver

variable {handlers : Handlers H ω}
variable {c : NatsClient H ω}
variable {octets : Octets}
variable {n k : Nat}
variable {feed : Feed H}
variable {pattern : String}
variable {first : Octets}
variable {rest : List Octets}
variable (hFeed : c.state.transport.feeds[n]? = some feed)
variable (hStream : feed.streams[k]? = some ⟨pattern, first :: rest⟩)

include hFeed hStream

/- The feed goes on, or is over if its handler broke down. -/
theorem deliver_eq :
    deliver handlers n k c =
      (c.withTransport
        (if (handlers.receive feed.handler first c.state.world).1 then
          { c.state.transport with
            feeds := c.state.transport.feeds.set n
              { feed with streams := feed.streams.set k ⟨pattern, rest⟩ } }
        else
          Broker.finish
            { c.state.transport with
              feeds := c.state.transport.feeds.set n
                { feed with
                  streams := feed.streams.set k ⟨pattern, rest⟩ } }
            n)).withWorld
        (handlers.receive feed.handler first c.state.world).2 := by
  simp only [deliver, hFeed, hStream]

/- Either way all feeds stay subscribed. -/
theorem fitting_deliver
    {server : Server}
    {keys : List Key}
    (hFitting : Fitting server keys c.state.transport) :
    Fitting server keys (deliver handlers n k c).state.transport := by
  rw [deliver_eq hFeed hStream]
  change Fitting server keys (if _ then _ else _)
  split
  · exact hFitting.set hFeed hStream rest
  · exact (hFitting.set hFeed hStream rest).finish n

/- The last payload of a feed is received, and its box is settled. -/
theorem delivers_of_waiting
    (hBacklog : feed.box.waiting = [octets]) :
    line.Delivers handlers octets n c (deliver handlers n k c) := by
  rcases backlog_last hBacklog hStream with ⟨rfl, rfl, hNone⟩
  have hBound := (List.getElem?_eq_some_iff.mp hFeed).1
  have hSome : feed.streams.isEmpty = false := by
    cases hStreams : feed.streams with
    | nil =>
        rw [hStreams] at hStream
        exact absurd hStream nofun
    | cons s others => rfl
  have hSomeLeft : (feed.streams.set k ⟨pattern, []⟩).isEmpty = false := by
    rw [List.isEmpty_eq_false_iff] at hSome ⊢
    simpa using hSome
  refine ⟨feed.box, _, ?_, hBacklog, deliver_eq hFeed hStream, ?_⟩
  · change (c.state.transport.feeds.map Feed.box)[n]? = _
    rw [List.getElem?_map, hFeed]
    rfl
  · change (Broker.feeds _).map Feed.box =
      (c.state.transport.feeds.map Feed.box).set n
        (feed.box.settle
          (handlers.receive feed.handler first c.state.world).1)
    cases (handlers.receive feed.handler first c.state.world).1 with
    | true =>
        rw [if_pos rfl, List.map_set]
        simp [Feed.box, Box.settle, hSome, hSomeLeft, hNone]
    | false =>
        rw [if_neg nofun, Broker.finish, Pool.modify_set, List.map_set]
        simp [Feed.box, Box.settle]

end Deliver

------------------------------------------------------------
-- The laws
------------------------------------------------------------

/- A new subscription has a new box. -/
theorem boxes_extend
    (key : Key)
    (handler : H)
    (b : Broker H) :
    (b.extend key handler).feeds.map Feed.box =
      b.feeds.map Feed.box ++ [.fresh handler] := by
  let streams : List Stream :=
    (patterns key.topic).map fun pattern => ⟨pattern, []⟩
  have hFresh : Feed.box (Feed.mk handler streams) = .fresh handler := by
    simp [Feed.box, Box.fresh, streams, backlog, patterns_ne_nil]
  change (b.feeds ++ [Feed.mk handler streams]).map Feed.box = _
  rw [List.map_append, List.map_singleton, hFresh]

/- Its feed is subscribed to the patterns of its key. -/
theorem Fitting.extend
    {server : Server}
    {keys : List Key}
    {b : Broker H}
    (hFitting : Fitting server keys b)
    (hLength : keys.length = b.feeds.length)
    (key : Key)
    (handler : H) :
    Fitting server (keys ++ [key]) (b.extend key handler) := by
  refine ⟨hFitting.serves, ?_⟩
  intro n feed other hAt hKey
  rcases Pool.joined_cases hAt with hOld | ⟨rfl, rfl⟩
  · have hBound := (List.getElem?_eq_some_iff.mp hOld).1
    rw [List.getElem?_append_left (hLength ▸ hBound)] at hKey
    exact hFitting.subscribed hOld hKey
  · rw [← hLength, List.getElem?_concat_length] at hKey
    cases hKey
    right
    rw [List.map_map]
    exact List.map_id _

/- A connection that is there is no fault. -/
theorem Broker.Serves.connected
    {server : Server}
    {b : Broker H}
    (hServes : b.Serves server) :
    b.connected = .ok () := by
  simp [Broker.connected, hServes.2.2]

/-
  A NATS server is lawful for messages of the size that it
  takes, and answers pings in its time.
-/
theorem lawful
    (handlers : Handlers H ω)
    (server : Server) :
    line.Lawful handlers server.maxPayload (answer server.delay)
      (Fitting server) where
  ready := fun _ => rfl
  ping := by
    intro keys b hFitting patience
    change ping patience b = _
    simp only [ping, hFitting.serves.connected, hFitting.serves.2.1]
  disconnect := fun _ => rfl
  calm := fun _ => rfl
  bind := by
    intro keys b hFitting hLength key handler
    have hFeeds : keys.length = b.feeds.length :=
      hLength.trans (List.length_map _)
    refine ⟨b.extend key handler, ?_, boxes_extend key handler b,
      hFitting.extend hFeeds key handler⟩
    have hNumber : (b.feeds.map Feed.box).length = b.feeds.length :=
      List.length_map _
    change bind key handler b = (.ok (b.feeds.map Feed.box).length, _)
    simp only [bind, hFitting.serves.connected, hNumber]
  unbind := by
    intro keys b hFitting hEmpty n
    exact ⟨b.finish n, rfl, boxes_finish hEmpty n, hFitting.finish n⟩
  send := by
    intro keys b r hFitting hTallied hEmpty subject m hSubject hSize
    have hFits : ¬ m.encode.length > b.maxPayload := by
      rw [hFitting.serves.1]
      omega
    have hTold : Fitting server keys (b.tell [.publish subject m.encode]) :=
      ⟨hFitting.serves, hFitting.subscribed⟩
    have hSend :
        send r subject m b =
          (.ok (),
            (b.tell [.publish subject m.encode]).distribute subject
              m.encode) := by
      simp only [send, if_neg hFits, hFitting.serves.connected]
    refine ⟨_, hSend, ?_, hTold.distribute subject m.encode⟩
    exact boxes_distribute hFitting hTallied hEmpty hSubject m.encode
  deliver := by
    intro keys c octets hFitting hThin place
    rcases deliver_cases handlers place.1 place.2 c with
      hSame | ⟨feed, pattern, first, rest, hFeed, hStream⟩
    · have hNothing : line.deliver handlers place c = c := hSame
      rw [hNothing]
      exact ⟨hFitting, Or.inl rfl⟩
    · refine ⟨fitting_deliver hFeed hStream hFitting, Or.inr ⟨place.1, ?_⟩⟩
      apply delivers_of_waiting hFeed hStream
      have hMember : feed.box ∈ c.state.transport.feeds.map Feed.box :=
        List.mem_map_of_mem (List.mem_of_getElem? hFeed)
      -- At most one payload waits for a feed, over all its streams.
      rcases hThin feed.box hMember with hEmpty | hFull
      · have hNone := List.flatMap_eq_nil_iff.mp hEmpty
        exact absurd (hNone _ (List.mem_of_getElem? hStream)) nofun
      · exact hFull
  deliverable := by
    intro keys c octets hFitting hThin n box hAt hWaiting
    change (c.state.transport.feeds.map Feed.box)[n]? = some box at hAt
    rw [List.getElem?_map] at hAt
    rcases Option.map_eq_some_iff.mp hAt with ⟨feed, hFeed, rfl⟩
    have hSome : octets ∈ backlog feed.streams := by
      change octets ∈ feed.box.waiting
      rw [hWaiting]
      exact List.mem_singleton_self octets
    rcases List.mem_flatMap.mp hSome with ⟨s, hMember, hWaits⟩
    rcases List.mem_iff_getElem?.mp hMember with ⟨k, hStream⟩
    rcases s with ⟨pattern, waiting⟩
    cases waiting with
    | nil => exact absurd hWaits List.not_mem_nil
    | cons first rest =>
        exact ⟨(n, k), delivers_of_waiting hFeed hStream hWaiting⟩

end Courier.Nats
