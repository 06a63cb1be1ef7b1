import Courier.Nats.Pattern
import Courier.Settings.Broker
import Courier.Transport.Client

/-
  This file defines the client of a NATS server, together
  with what the server holds for it.

  Each subscription of the client is fed by one or two
  subscriptions on the server.  The messages of each of these
  arrive in order, but those of one may overtake those of the
  other.

  The server takes its time to answer, and a ping does not wait
  for longer than it is allowed to.  The connection may be lost
  for good, which fails all calls that need it.

  Key definitions include:
    * `Nats.Server`
    * `Nats.Broker`
    * `Nats.transport`
    * `Nats.connect`
    * `Nats.deliver`
    * `Nats.drain`
-/

namespace Courier.Nats

open Registration

------------------------------------------------------------
-- Servers
------------------------------------------------------------

/- A server that a client may connect to. -/
structure Server where
  /- Whether anything listens. -/
  reachable : Bool
  /- Whether clients are let in. -/
  welcoming : Bool
  /- How many octets a message may have. -/
  maxPayload : Nat
  /- How long it takes to answer. -/
  delay : Duration := .zero
  deriving DecidableEq, Repr

/- A server that lets clients in, and takes a mebibyte. -/
def Server.healthy : Server where
  reachable := true
  welcoming := true
  maxPayload := 1048576
  delay := .zero

/- What a client tells the server. -/
inductive Command where
  | subscribe (pattern : String)
  | publish (subject : String) (octets : Octets)
  deriving DecidableEq, Repr

------------------------------------------------------------
-- State
------------------------------------------------------------

/- A subscription on the server. -/
structure Stream where
  pattern : String
  /- The payloads that have not been delivered, oldest first. -/
  waiting : List Octets
  deriving DecidableEq, Repr

/- What feeds the handler of a subscription. -/
structure Feed (H : Type) where
  handler : H
  /- The subscriptions on the server; none when it is over. -/
  streams : List Stream

/- The state of a client and of the server behind it. -/
structure Broker (H : Type) where
  maxPayload : Nat
  /- How long the server takes to answer. -/
  delay : Duration
  /- What calls fail with, if the connection is gone. -/
  lost : Option String
  /- The feeds of all subscriptions so far, by their numbers. -/
  feeds : List (Feed H)
  /- What the server was told. -/
  log : List Command

/- A client of a NATS server. -/
abbrev NatsClient (H ω : Type) :=
  Client H Nat (Broker H) ω

variable {H ω : Type}

/- The state of a client that has just connected to a server. -/
def Broker.create
    (server : Server) : Broker H where
  maxPayload := server.maxPayload
  delay := server.delay
  lost := none
  feeds := []
  log := []

/- Let the connection be lost. -/
def Broker.lose
    (b : Broker H)
    (detail : String) : Broker H :=
  { b with lost := some detail }

/- Check that the connection is there. -/
def Broker.connected
    (b : Broker H) : Except Fault Unit :=
  match b.lost with
  | none => .ok ()
  | some detail => .error (.connection detail)

/- The patterns of all subscriptions that the server holds. -/
def Broker.active
    (b : Broker H) : List String :=
  b.feeds.flatMap fun feed => feed.streams.map (·.pattern)

/- Tell the server something. -/
def Broker.tell
    (b : Broker H)
    (commands : List Command) : Broker H :=
  { b with log := b.log ++ commands }

------------------------------------------------------------
-- Sending
------------------------------------------------------------

/- Let a payload wait on a subscription that accepts its subject. -/
def Stream.push
    (subject : String)
    (octets : Octets)
    (s : Stream) : Stream :=
  if accepts s.pattern subject then
    { s with waiting := s.waiting ++ [octets] }
  else
    s

/- Send a payload to every subscription that accepts its subject. -/
def Broker.distribute
    (b : Broker H)
    (subject : String)
    (octets : Octets) : Broker H :=
  { b with
    feeds := b.feeds.map fun feed =>
      { feed with streams := feed.streams.map (Stream.push subject octets) } }

/- How many subscriptions on the server accept a subject. -/
def Broker.accepting
    (b : Broker H)
    (subject : String) : Nat :=
  (b.active.filter fun pattern => accepts pattern subject).length

/- Publish a message, unless it is too large. -/
def send
    (_r : Registry H Nat)
    (subject : String)
    (m : Message)
    (b : Broker H) : Except Fault Unit × Broker H :=
  let octets := m.encode
  if octets.length > b.maxPayload then
    (.error (.connection "payload exceeds the limit of the server"), b)
  else
    match b.connected with
    | .error fault => (.error fault, b)
    | .ok () =>
        (.ok (), (b.tell [.publish subject octets]).distribute subject octets)

------------------------------------------------------------
-- Subscribing
------------------------------------------------------------

/- Make the feed of a new subscription, under the patterns of its key. -/
def Broker.extend
    (key : Key)
    (handler : H)
    (b : Broker H) : Broker H :=
  let streams := (patterns key.topic).map fun pattern => ⟨pattern, []⟩
  { b.tell ((patterns key.topic).map .subscribe) with
    feeds := b.feeds ++ [⟨handler, streams⟩] }

/- Subscribe under each pattern that a key calls for. -/
def bind
    (key : Key)
    (handler : H)
    (b : Broker H) : Except Fault Nat × Broker H :=
  match b.connected with
  | .error fault => (.error fault, b)
  | .ok () => (.ok b.feeds.length, b.extend key handler)

/- End a feed, and with it its subscriptions on the server. -/
def Broker.finish
    (b : Broker H)
    (n : Nat) : Broker H :=
  { b with feeds := b.feeds.modify n fun feed => { feed with streams := [] } }

/- Withdraw the subscriptions that feed a handler. -/
def unbind
    (n : Nat)
    (b : Broker H) : Except Fault Unit × Broker H :=
  (.ok (), b.finish n)

/- How a ping comes out that is answered after a time. -/
def answer
    (delay limit : Duration) : Except Fault Unit :=
  if delay.exceeds limit then
    .error (.connection ("NATS ping timed out after " ++ limit.render))
  else
    .ok ()

/- Wait until the server answers, for no longer than allowed. -/
def ping
    (limit : Duration)
    (b : Broker H) : Except Fault Unit :=
  match b.connected with
  | .error fault => .error fault
  | .ok () => answer b.delay limit

/- A NATS server as a transport. -/
def transport : Transport H Nat (Broker H) where
  ready := fun _ => .ok ()
  send := send
  bind := bind
  panics := fun _ => false
  unbind := unbind
  ping := ping
  disconnect := fun b => (.ok (), b)

/- Connect a client as its settings ask. -/
def connect
    (settings : BrokerSettings)
    (server : Server)
    (world : ω) : Except Fault (NatsClient H ω) := do
  settings.validate
  if !server.reachable then
    .error (.connection "connection refused")
  else if !server.welcoming then
    .error (.connection "authorization violation")
  else
    return Client.create settings.root (.create server) world

------------------------------------------------------------
-- Delivering
------------------------------------------------------------

/-
  Give a handler the first payload that waits on one of the
  subscriptions of a feed.  The feed of a handler that breaks
  down is over.
-/
def deliver
    (handlers : Handlers H ω)
    (n k : Nat)
    (c : NatsClient H ω) : NatsClient H ω :=
  let b := c.state.transport
  match b.feeds[n]? with
  | none => c
  | some feed =>
      match feed.streams[k]? with
      | some ⟨pattern, octets :: rest⟩ =>
          let (more, w) := handlers.receive feed.handler octets c.state.world
          let feed := { feed with streams := feed.streams.set k ⟨pattern, rest⟩ }
          let b := { b with feeds := b.feeds.set n feed }
          (c.withTransport (if more then b else b.finish n)).withWorld w
      | _ => c

/- Deliver a number of payloads of one subscription. -/
def deliverMany
    (handlers : Handlers H ω)
    (n k : Nat) :
    Nat → NatsClient H ω → NatsClient H ω
  | 0, c => c
  | count + 1, c =>
      deliverMany handlers n k count (deliver handlers n k c)

/- Deliver all that waits on the subscriptions of a feed. -/
def drainFeed
    (handlers : Handlers H ω)
    (c : NatsClient H ω)
    (n : Nat) : NatsClient H ω :=
  match c.state.transport.feeds[n]? with
  | none => c
  | some feed =>
      (List.range feed.streams.length).foldl
        (fun c k =>
          match feed.streams[k]? with
          | none => c
          | some s => deliverMany handlers n k s.waiting.length c)
        c

/- Deliver all that waits, one feed after the other. -/
def drain
    (handlers : Handlers H ω)
    (c : NatsClient H ω) : NatsClient H ω :=
  (List.range c.state.transport.feeds.length).foldl
    (drainFeed handlers) c

/-
  Let the server send a payload under a subject, as if someone
  had published it.  The answer is how many subscriptions it
  went to.
-/
def inject
    (subject : String)
    (octets : Octets)
    (c : NatsClient H ω) : Nat × NatsClient H ω :=
  let b := c.state.transport
  (b.accepting subject, c.withTransport (b.distribute subject octets))

end Courier.Nats
