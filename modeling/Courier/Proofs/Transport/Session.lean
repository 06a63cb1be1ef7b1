import Courier.Proofs.Registration.Table
import Courier.Proofs.Wire.RoundTrip
import Courier.Transport.LocalBroker

/-
  This file defines all that may happen on a broker in memory:
  calls that subscribe, unsubscribe and close, messages that
  are published, outages, times at which no thread can be
  started, and deliveries from any queue.  The calls take their
  steps in any order, and deliveries go on in between.  The
  table of subscriptions may be read in another order at any
  time.

  Beside the broker a session keeps what an onlooker sees: the
  registrations that the calls made, the messages that were
  taken with the subscriptions of that time, and the messages
  that each delivery passed to a handler.

  Key definitions include:
    * `Watch`, `Handlers.watched`
    * `Publication`, `Publication.reaches`
    * `Session`
    * `Session.Step`, `Session.Reachable`
    * `Session.handedTo`, `Session.expected`
-/

namespace Courier

open Registration

variable {H ω : Type}

------------------------------------------------------------
-- Handlers under watch
------------------------------------------------------------

/- The world of some handlers, and all that was passed to them. -/
structure Watch (H ω : Type) where
  world : ω
  seen : List (H × Message)

/- The same handlers, where all that is passed to them is noted. -/
def Handlers.watched
    (handlers : Handlers H ω) : Handlers H (Watch H ω) where
  handle := fun handler m w =>
    let (handled, world) := handlers.handle handler m w.world
    (handled, { world, seen := w.seen ++ [(handler, m)] })
  cancel := fun handler w =>
    let (outcome, world) := handlers.cancel handler w.world
    (outcome, { w with world })

------------------------------------------------------------
-- Publications
------------------------------------------------------------

/- A message that was taken. -/
structure Publication (H : Type) where
  /- The topic that it was published on. -/
  topic : String
  message : Message
  /- The subscriptions that there were then. -/
  table : Table (Subscription H Nat)

namespace Publication

/- The subject that a message was published under. -/
def subject?
    (root : String)
    (p : Publication H) : Option String :=
  (Topic.build root p.topic p.message.subtopic).toOption

/-
  Whether a subscription was there when a message was taken,
  and its pattern covers the subject.
-/
def reaches
    [DecidableEq H]
    (root : String)
    (key : Key)
    (v : Subscription H Nat)
    (p : Publication H) : Bool :=
  decide (p.table.get? key = some v) &&
    (p.subject? root).any (Topic.covers key.topic)

end Publication

/- What a publication adds to the messages that were taken. -/
def Publication.ifOk
    (p : Publication H) : Except Fault Unit → List (Publication H)
  | .ok () => [p]
  | .error _ => []

------------------------------------------------------------
-- Sessions
------------------------------------------------------------

/- The subscriptions of a registry that were not there before. -/
def Registration.Registry.arrivals
    {B : Type}
    [DecidableEq H]
    [DecidableEq B]
    (before after : Registry H B) : List (Key × Subscription H B) :=
  after.table.entries.filter fun entry =>
    before.table.get? entry.1 ≠ some entry.2

/- Where the call of a client starts. -/
def Client.Call.asking
    {B : Type} : Request H → Client.Call H B
  | .clear => .closing
  | request => .entering request

/- A broker in memory, with all that was seen on it so far. -/
structure Session (H ω : Type) where
  client : LocalClient H (Watch H ω)
  /- What the calls asked for, and where they stand. -/
  calls : List (Request H × Client.Call H Nat)
  /- The registrations, with the numbers of the calls that made them. -/
  made : List (Nat × Key × Subscription H Nat)
  /- The messages that were taken, in the order of their publishing. -/
  taken : List (Publication H)
  /- What was passed to handlers, with the numbers of the queues. -/
  handed : List (Nat × H × Message)

namespace Session

/- A broker that nobody has used yet. -/
def start
    (root : String)
    (recording : Bool)
    (world : ω) : Session H ω where
  client := .create root (.create recording) { world, seen := [] }
  calls := []
  made := []
  taken := []
  handed := []

/- The queues of all subscriptions so far. -/
def queues
    (s : Session H ω) : List (LocalBroker.Queue H) :=
  s.client.state.transport.queues

/- What may happen next. -/
inductive Step
    [DecidableEq H]
    (handlers : Handlers H ω)
    (s : Session H ω) : Session H ω → Prop where
  /- Somebody makes a call; all subscriptions are given up by closing. -/
  | ask
      (request : Request H) :
      Step handlers s
        { s with calls := s.calls ++ [(request, .asking request)] }
  /- A call takes its next step. -/
  | advance
      (i : Nat)
      {request : Request H}
      {call call' : Client.Call H Nat}
      {client' : LocalClient H (Watch H ω)}
      (hAt : s.calls[i]? = some (request, call))
      (hStep :
        call.step LocalBroker.transport handlers.watched s.client =
          (call', client')) :
      Step handlers s
        { s with
          client := client'
          calls := s.calls.set i (request, call')
          made :=
            s.made ++
              (s.client.registry.arrivals client'.registry).map (i, ·) }
  /- Somebody publishes a message. -/
  | publish
      (topic : String)
      {m : Message}
      {result : Except Fault Unit}
      {client' : LocalClient H (Watch H ω)}
      (hFits : m.Fits)
      (hPublish :
        Client.publish LocalBroker.transport topic m s.client =
          (result, client')) :
      Step handlers s
        { s with
          client := client'
          taken :=
            s.taken ++
              Publication.ifOk ⟨topic, m, s.client.registry.table⟩
                result }
  /- The broker goes down or comes back. -/
  | setAvailable
      (available : Bool) :
      Step handlers s
        { s with
          client :=
            s.client.withTransport
              (s.client.state.transport.setAvailable available) }
  /- No thread can be started any more, or threads can be again. -/
  | setRefusal
      (refusal : Option String) :
      Step handlers s
        { s with
          client :=
            s.client.withTransport
              (s.client.state.transport.setRefusal refusal) }
  /- The first message of a queue is delivered. -/
  | deliver
      (n : Nat)
      {client' : LocalClient H (Watch H ω)}
      (hDeliver :
        LocalBroker.deliver handlers.watched n s.client = client') :
      Step handlers s
        { s with
          client := client'
          handed :=
            s.handed ++
              (client'.state.world.seen.drop
                s.client.state.world.seen.length).map (n, ·) }
  /- The subscriptions are read in another order from now on. -/
  | reorder
      {r : Registry H Nat}
      (hReordered : s.client.registry.Reordered r) :
      Step handlers s { s with client := { s.client with registry := r } }

/- What can come after a number of steps. -/
inductive Reachable
    [DecidableEq H]
    (handlers : Handlers H ω)
    (first : Session H ω) : Session H ω → Prop where
  | start : Reachable handlers first first
  | step
      {s s' : Session H ω}
      (hEarlier : Reachable handlers first s)
      (hStep : Step handlers s s') :
      Reachable handlers first s'

/- What the deliveries from a queue passed to handlers, in order. -/
def handedTo
    (s : Session H ω)
    (n : Nat) : List (H × Message) :=
  (s.handed.filter (·.1 = n)).map (·.2)

/-
  The messages that were taken while a subscription was there
  and that it asked for, in the order of their publishing.
-/
def expected
    [DecidableEq H]
    (s : Session H ω)
    (root : String)
    (key : Key)
    (v : Subscription H Nat) : List Message :=
  (s.taken.filter (·.reaches root key v)).map (·.message)

end Session

end Courier
