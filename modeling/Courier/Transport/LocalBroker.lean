import Courier.Transport.Client

/-
  This file defines the broker in memory.  Each subscription
  has a queue of its own, from which messages are delivered
  in order, while those of other subscriptions are delivered
  independently.  Messages are queued in their wire form.

  A thread delivers from each queue, under a name that is made
  from the id of the client.  It may be impossible to start
  one, and a name that cannot be given makes the call panic.

  A queue that is detached takes no more messages; what waits
  in it is still delivered.

  Key definitions include:
    * `LocalBroker`
    * `LocalBroker.bind`, `LocalBroker.panics`
    * `LocalBroker.transport`
    * `LocalBroker.deliver`
    * `LocalBroker.drain`
    * `LocalClient`
-/

namespace Courier

open Registration

------------------------------------------------------------
-- State
------------------------------------------------------------

/- The queue of a subscription. -/
structure LocalBroker.Queue (H : Type) where
  /- The handler that messages go to. -/
  handler : H
  /- The wire forms of the messages that wait, oldest first. -/
  waiting : List Octets
  /- Whether the subscription is still there. -/
  attached : Bool
  /- Whether the handler can still be given messages. -/
  running : Bool

/- The state of a broker in memory. -/
structure LocalBroker (H : Type) where
  /- Whether messages are taken. -/
  available : Bool
  /- What it fails with to start a thread, if none can be started. -/
  refusal : Option String
  /- Every message taken, with its subject, if they are kept. -/
  log : Option (List (String × Message))
  /- The queues of all subscriptions so far, by their numbers. -/
  queues : List (LocalBroker.Queue H)

/- A client of a broker in memory. -/
abbrev LocalClient (H ω : Type) :=
  Client H Nat (LocalBroker H) ω

namespace LocalBroker

variable {H ω : Type}

/- The broker that nobody has used yet. -/
def create
    (recording : Bool) : LocalBroker H where
  available := true
  refusal := none
  log := if recording then some [] else none
  queues := []

/- Make the broker available or not. -/
def setAvailable
    (b : LocalBroker H)
    (available : Bool) : LocalBroker H :=
  { b with available := available }

/- Let no thread be started, or let threads be started again. -/
def setRefusal
    (b : LocalBroker H)
    (refusal : Option String) : LocalBroker H :=
  { b with refusal := refusal }

/- The messages taken so far, with their subjects. -/
def published
    (b : LocalBroker H) : List (String × Message) :=
  b.log.getD []

/- The messages taken so far under a subject. -/
def publishedOn
    (b : LocalBroker H)
    (subject : String) : List Message :=
  (b.published.filter fun entry => entry.1 == subject).map (·.2)

------------------------------------------------------------
-- Sending
------------------------------------------------------------

/- Check that the broker is available. -/
def ready
    (b : LocalBroker H) : Except Fault Unit :=
  if b.available then
    .ok ()
  else
    .error (.connection "in-memory broker unavailable")

/- Keep a message, if messages are kept. -/
def record
    (b : LocalBroker H)
    (subject : String)
    (m : Message) : LocalBroker H :=
  { b with log := b.log.map (· ++ [(subject, m)]) }

/- Let a message wait in a queue, if it takes any. -/
def Queue.push
    (octets : Octets)
    (q : Queue H) : Queue H :=
  if q.attached && q.running then
    { q with waiting := q.waiting ++ [octets] }
  else
    q

/- Let a message wait in the queue with a number. -/
def enqueue
    (octets : Octets)
    (b : LocalBroker H)
    (n : Nat) : LocalBroker H :=
  { b with queues := b.queues.modify n (Queue.push octets) }

/- Send a message to the subscriptions that cover its subject. -/
def send
    (r : Registry H Nat)
    (subject : String)
    (m : Message)
    (b : LocalBroker H) : Except Fault Unit × LocalBroker H :=
  let b := b.record subject m
  match r.route subject with
  | .error fault => (.error fault, b)
  | .ok subscriptions =>
      (.ok (),
        (subscriptions.map (·.2.binding)).foldl (enqueue m.encode) b)

------------------------------------------------------------
-- Subscribing
------------------------------------------------------------

/- The queue of a new subscription. -/
def Queue.fresh
    (handler : H) : Queue H where
  handler := handler
  waiting := []
  attached := true
  running := true

/- Make the queue of a new subscription. -/
def extend
    (handler : H)
    (b : LocalBroker H) : LocalBroker H :=
  { b with queues := b.queues ++ [.fresh handler] }

/- Make a queue, with a thread that delivers from it. -/
def bind
    (_key : Key)
    (handler : H)
    (b : LocalBroker H) : Except Fault Nat × LocalBroker H :=
  match b.refusal with
  | some detail =>
      (.error (.connection ("failed to spawn delivery thread: " ++ detail)), b)
  | none => (.ok b.queues.length, b.extend handler)

/- No thread can be named after an id with a null character. -/
def panics
    (key : Key) : Bool :=
  key.client.toList.contains '\x00'

/- Detach the queue of a subscription. -/
def unbind
    (n : Nat)
    (b : LocalBroker H) : Except Fault Unit × LocalBroker H :=
  (.ok (),
    { b with
      queues := b.queues.modify n fun q => { q with attached := false } })

/- The broker in memory as a transport. -/
def transport : Transport H Nat (LocalBroker H) where
  ready := ready
  send := send
  bind := bind
  panics := panics
  unbind := unbind
  ping := fun _ b => b.ready
  disconnect := fun b => (.ok (), b)

------------------------------------------------------------
-- Delivering
------------------------------------------------------------

/-
  Give a handler the first message of a queue.  A handler
  that breaks down gets nothing more.
-/
def Queue.deliver
    (handlers : Handlers H ω)
    (q : Queue H)
    (w : ω) : Queue H × ω :=
  match q.waiting with
  | [] => (q, w)
  | octets :: rest =>
      let (more, w) := handlers.receive q.handler octets w
      if more then
        ({ q with waiting := rest }, w)
      else
        ({ q with waiting := [], running := false }, w)

/- Deliver the first message of the queue with a number. -/
def deliver
    (handlers : Handlers H ω)
    (n : Nat)
    (c : LocalClient H ω) : LocalClient H ω :=
  let b := c.state.transport
  match b.queues[n]? with
  | none => c
  | some q =>
      let (q, w) := q.deliver handlers c.state.world
      (c.withTransport { b with queues := b.queues.set n q }).withWorld w

/- Deliver a number of messages of one queue. -/
def deliverMany
    (handlers : Handlers H ω)
    (n : Nat) :
    Nat → LocalClient H ω → LocalClient H ω
  | 0, c => c
  | count + 1, c =>
      deliverMany handlers n count (deliver handlers n c)

/- Deliver all that waits, one queue after the other. -/
def drain
    (handlers : Handlers H ω)
    (c : LocalClient H ω) : LocalClient H ω :=
  (List.range c.state.transport.queues.length).foldl
    (fun c n =>
      match c.state.transport.queues[n]? with
      | none => c
      | some q => deliverMany handlers n q.waiting.length c)
    c

end LocalBroker

end Courier
