import Courier.Amqp.BindingKey
import Courier.Settings.Broker
import Courier.Transport.Client

/-
  This file defines the client of an AMQP server, together
  with what the server holds for it.

  All messages go through one topic exchange.  Each
  subscription has a queue, bound to the exchange by the key
  of its topic, and a consumer on that queue.  The names of
  queues and the tags of consumers are made from the keys of
  subscriptions alone.

  The server hands a message to one consumer of each queue
  that it reaches, to each in its turn.  A queue disappears
  with its last consumer.  A second consumer under a tag in
  use makes the server close the connection.

  Key definitions include:
    * `Amqp.Server`
    * `Amqp.Broker`
    * `Amqp.transport`
    * `Amqp.connect`
    * `Amqp.deliver`
    * `Amqp.drain`
-/

namespace Courier.Amqp

open Registration

------------------------------------------------------------
-- Servers
------------------------------------------------------------

/- A server that a client may connect to. -/
structure Server where
  /- Whether anything listens. -/
  reachable : Bool
  /- Whether clients are let in. -/
  welcoming : Bool
  /- Whether exchanges may be declared. -/
  grantsExchanges : Bool
  deriving DecidableEq, Repr

/- A server that lets clients in. -/
def Server.healthy : Server where
  reachable := true
  welcoming := true
  grantsExchanges := true

/- How an exchange is declared. -/
structure ExchangeOptions where
  passive : Bool
  durable : Bool
  autoDelete : Bool
  deriving DecidableEq, Repr

/- How a queue is declared. -/
structure QueueOptions where
  passive : Bool
  durable : Bool
  exclusive : Bool
  autoDelete : Bool
  deriving DecidableEq, Repr

/- How a consumer is started. -/
structure ConsumeOptions where
  noLocal : Bool
  noAck : Bool
  exclusive : Bool
  deriving DecidableEq, Repr

/- What a message says about itself. -/
structure Properties where
  contentType : String
  appId : String
  deriving DecidableEq, Repr

/- What a client tells the server. -/
inductive Command where
  | declareExchange
      (name kind : String) (options : ExchangeOptions)
  | declareQueue (name : String) (options : QueueOptions)
  | bindQueue (queue exchange key : String)
  | consume (queue tag : String) (options : ConsumeOptions)
  | cancel (tag : String)
  | publish
      (exchange key : String)
      (properties : Properties)
      (octets : Octets)
  | closeConnection (code : Nat) (text : String)
  deriving DecidableEq, Repr

/- The exchange survives a restart of the server. -/
def exchangeOptions : ExchangeOptions where
  passive := false
  durable := true
  autoDelete := false

/- A queue belongs to its client and goes with its consumer. -/
def queueOptions : QueueOptions where
  passive := false
  durable := false
  exclusive := true
  autoDelete := true

/- Deliveries are not acknowledged. -/
def consumeOptions : ConsumeOptions where
  noLocal := false
  noAck := true
  exclusive := false

/- Messages are octets of this library. -/
def properties : Properties where
  contentType := "application/octet-stream"
  appId := "relaybus"

/- The name of the queue of a subscription. -/
def queueName
    (key : Key) : String :=
  key.topic ++ "." ++ key.client

/- The tag of the consumer of a subscription. -/
def consumerTag
    (key : Key) : String :=
  key.client ++ ":" ++ key.topic

------------------------------------------------------------
-- State
------------------------------------------------------------

/- A queue on the server. -/
structure Queue where
  name : String
  /- The keys that bind it to the exchange. -/
  keys : List String
  /- The numbers of its consumers, in the order of their turns. -/
  turns : List Nat
  deriving DecidableEq, Repr

/- What feeds the handler of a subscription. -/
structure Consumer (H : Type) where
  handler : H
  tag : String
  /- Whether the server holds it. -/
  held : Bool
  /- The payloads that have not been delivered, oldest first. -/
  waiting : List Octets

/- The state of a client and of the server behind it. -/
structure Broker (H : Type) where
  exchange : String
  /- Whether the connection is open. -/
  connected : Bool
  /- Whether the channel on the connection is open. -/
  channelOpen : Bool
  /- Whether the next queue is refused. -/
  denying : Bool
  queues : List Queue
  /- The consumers of all subscriptions so far, by their numbers. -/
  consumers : List (Consumer H)
  /- What the server was told. -/
  log : List Command

/- A client of an AMQP server. -/
abbrev AmqpClient (H ω : Type) :=
  Client H Nat (Broker H) ω

variable {H ω : Type}

namespace Broker

/- Whether the channel, and the connection below it, are open. -/
def isOpen
    (b : Broker H) : Bool :=
  b.connected && b.channelOpen

/- The tags of the consumers that the server holds. -/
def active
    (b : Broker H) : List String :=
  (b.consumers.filter (·.held)).map (·.tag)

/- Tell the server something. -/
def tell
    (b : Broker H)
    (command : Command) : Broker H :=
  { b with log := b.log ++ [command] }

/- Let the server forget all queues and consumers. -/
def forget
    (b : Broker H) : Broker H :=
  { b with
    queues := []
    consumers := b.consumers.map fun c => { c with held := false } }

/- Close the channel. -/
def closeChannel
    (b : Broker H) : Broker H :=
  { b.forget with channelOpen := false }

/- Close the connection. -/
def closeConnection
    (b : Broker H) : Broker H :=
  { b.forget with connected := false }

/- Let the server refuse the next queue. -/
def denyQueue
    (b : Broker H) : Broker H :=
  { b with denying := true }

end Broker

------------------------------------------------------------
-- Sending
------------------------------------------------------------

/- Whether one of the keys of a queue accepts a subject. -/
def Queue.accepts
    (q : Queue)
    (subject : String) : Bool :=
  q.keys.any fun key => Amqp.accepts key subject

/- The queue after the consumer whose turn it is had it. -/
def Queue.turn
    (q : Queue) : Queue :=
  match q.turns with
  | [] => q
  | n :: rest => { q with turns := rest ++ [n] }

/- Let a payload wait for a consumer. -/
def Consumer.push
    (octets : Octets)
    (c : Consumer H) : Consumer H :=
  { c with waiting := c.waiting ++ [octets] }

namespace Broker

/- The queues that the messages of a subject reach. -/
def reached
    (b : Broker H)
    (subject : String) : List Queue :=
  b.queues.filter (·.accepts subject)

/-
  Hand a payload to one consumer of each queue that its
  subject reaches.
-/
def distribute
    (b : Broker H)
    (subject : String)
    (octets : Octets) : Broker H :=
  let next := (b.reached subject).filterMap (·.turns.head?)
  { b with
    queues := b.queues.map fun q =>
      if q.accepts subject then q.turn else q
    consumers := next.foldl
      (fun consumers n => consumers.modify n (Consumer.push octets))
      b.consumers }

end Broker

/- The fault of a channel that is not open. -/
def notOpen : Fault :=
  .connection "channel is not open"

/- Publish a message. -/
def send
    (_r : Registry H Nat)
    (subject : String)
    (m : Message)
    (b : Broker H) : Except Fault Unit × Broker H :=
  if b.isOpen then
    let octets := m.encode
    let b := b.tell (.publish b.exchange subject properties octets)
    (.ok (), b.distribute subject octets)
  else
    (.error notOpen, b)

------------------------------------------------------------
-- Subscribing
------------------------------------------------------------

namespace Broker

/- Declare a queue, which may be there already. -/
def declareQueue
    (b : Broker H)
    (name : String) : Broker H :=
  if b.queues.any (·.name == name) then
    b
  else
    { b with queues := b.queues ++ [⟨name, [], []⟩] }

/- Bind a queue by a key, which it may be bound by already. -/
def bindQueue
    (b : Broker H)
    (name key : String) : Broker H :=
  { b with
    queues := b.queues.map fun q =>
      if q.name = name ∧ key ∉ q.keys then
        { q with keys := q.keys ++ [key] }
      else
        q }

/- Start a consumer on a queue. -/
def startConsumer
    (b : Broker H)
    (name tag : String)
    (handler : H) : Broker H :=
  { b with
    queues := b.queues.map fun q =>
      if q.name = name then
        { q with turns := q.turns ++ [b.consumers.length] }
      else
        q
    consumers := b.consumers ++
      [{ handler := handler, tag := tag, held := true, waiting := [] }] }

/- Take a consumer off the queues, and the queues that it leaves empty. -/
def takeOff
    (n : Nat)
    (queues : List Queue) : List Queue :=
  queues.filterMap fun q =>
    if n ∈ q.turns then
      let q := { q with turns := q.turns.filter (· ≠ n) }
      if q.turns.isEmpty then none else some q
    else
      some q

/- The number of the consumer that the server holds under a tag. -/
def consumerUnder?
    (b : Broker H)
    (tag : String) : Option Nat :=
  b.consumers.findIdx? fun c => c.held && c.tag == tag

/- End the consumer that the server holds under a tag. -/
def endConsumer
    (b : Broker H)
    (tag : String) : Broker H :=
  match b.consumerUnder? tag with
  | none => b
  | some n =>
      { b with
        queues := takeOff n b.queues
        consumers :=
          b.consumers.modify n fun c => { c with held := false } }

/- Cancel the consumer under a tag, if there is one. -/
def cancel
    (b : Broker H)
    (tag : String) : Broker H :=
  if (b.consumerUnder? tag).isSome then
    (b.tell (.cancel tag)).endConsumer tag
  else
    b

/- Feed the consumer with a number no longer. -/
def abort
    (b : Broker H)
    (n : Nat) : Broker H :=
  { b with
    consumers := b.consumers.modify n fun c => { c with waiting := [] } }

end Broker

/-
  Start a consumer on the queue of a key.  The server refuses
  it, and more, where the queue is denied or the tag in use.
-/
def bind
    (key : Key)
    (handler : H)
    (b : Broker H) : Except Fault Nat × Broker H :=
  let name := queueName key
  let tag := consumerTag key
  let word := Topic.bindingKey key.topic
  if !b.isOpen then
    (.error notOpen, b)
  else
    let b := b.tell (.declareQueue name queueOptions)
    if b.denying then
      (.error (.connection "queue refused"),
        { b.closeChannel with denying := false })
    else
      let b := b.declareQueue name
      let b := (b.tell (.bindQueue name b.exchange word)).bindQueue name word
      let b := b.tell (.consume name tag consumeOptions)
      if tag ∈ b.active then
        (.error (.connection "consumer tag in use"), b.closeConnection)
      else
        (.ok b.consumers.length, b.startConsumer name tag handler)

/- Cancel the consumer that feeds a handler, by its tag. -/
def unbind
    (n : Nat)
    (b : Broker H) : Except Fault Unit × Broker H :=
  match b.consumers[n]? with
  | none => (.ok (), b)
  | some c =>
      let b := b.abort n
      if b.isOpen then
        (.ok (), b.cancel c.tag)
      else
        (.error notOpen, b)

/- Check that the connection and the channel are open. -/
def ping
    (_limit : Duration)
    (b : Broker H) : Except Fault Unit :=
  if b.isOpen then
    .ok ()
  else
    .error (.connection "AMQP connection is not open")

/- Close the connection, which has to be open. -/
def disconnect
    (b : Broker H) : Except Fault Unit × Broker H :=
  if b.connected then
    (.ok (), (b.tell (.closeConnection 200 "OK")).closeConnection)
  else
    (.error (.connection "connection is not open"), b)

/- An AMQP server as a transport. -/
def transport : Transport H Nat (Broker H) where
  ready := fun _ => .ok ()
  send := send
  bind := bind
  panics := fun _ => false
  unbind := unbind
  ping := ping
  disconnect := disconnect

/- The state of a client that has just declared its exchange. -/
def Broker.create
    (exchange : String) : Broker H where
  exchange := exchange
  connected := true
  channelOpen := true
  denying := false
  queues := []
  consumers := []
  log := [.declareExchange exchange "topic" exchangeOptions]

/- Connect a client as its settings ask. -/
def connect
    (settings : BrokerSettings)
    (server : Server)
    (world : ω) : Except Fault (AmqpClient H ω) := do
  settings.validate
  if !server.reachable then
    .error (.connection "connection refused")
  else if !server.welcoming then
    .error (.connection "login refused")
  else if !server.grantsExchanges then
    .error (.connection "exchange refused")
  else
    return Client.create settings.root (.create settings.exchange) world

------------------------------------------------------------
-- Delivering
------------------------------------------------------------

/-
  Give a handler the first payload that waits for a consumer.
  The consumer of a handler that breaks down is cancelled.
-/
def deliver
    (handlers : Handlers H ω)
    (n : Nat)
    (c : AmqpClient H ω) : AmqpClient H ω :=
  let b := c.state.transport
  match b.consumers[n]? with
  | none => c
  | some consumer =>
      match consumer.waiting with
      | [] => c
      | octets :: rest =>
          let (more, w) :=
            handlers.receive consumer.handler octets c.state.world
          let consumers :=
            b.consumers.set n { consumer with waiting := rest }
          let b := { b with consumers := consumers }
          let b := if more then b else (b.abort n).cancel consumer.tag
          (c.withTransport b).withWorld w

/- Deliver a number of payloads to one consumer. -/
def deliverMany
    (handlers : Handlers H ω)
    (n : Nat) :
    Nat → AmqpClient H ω → AmqpClient H ω
  | 0, c => c
  | count + 1, c =>
      deliverMany handlers n count (deliver handlers n c)

/- Deliver all that waits, one consumer after the other. -/
def drain
    (handlers : Handlers H ω)
    (c : AmqpClient H ω) : AmqpClient H ω :=
  (List.range c.state.transport.consumers.length).foldl
    (fun c n =>
      match c.state.transport.consumers[n]? with
      | none => c
      | some consumer =>
          deliverMany handlers n consumer.waiting.length c)
    c

/-
  Let the server send a payload under a subject, as if someone
  had published it.  The answer is how many queues it reached.
-/
def inject
    (subject : String)
    (octets : Octets)
    (c : AmqpClient H ω) : Nat × AmqpClient H ω :=
  let b := c.state.transport
  ((b.reached subject).length,
    c.withTransport (b.distribute subject octets))

/- Let the server act on its own. -/
def serve
    (act : Broker H → Broker H)
    (c : AmqpClient H ω) : AmqpClient H ω :=
  c.withTransport (act c.state.transport)

end Courier.Amqp
