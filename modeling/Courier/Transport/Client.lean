import Courier.Duration
import Courier.Registration.Run
import Courier.Topic.Subject
import Courier.Transport.Handler
import Courier.Transport.Publication

/-
  This file defines the clients of brokers.  All of them
  check, register and close in the same way, and differ in
  the transport below.

  The calls that change subscriptions are defined step by
  step, so the steps of several calls may be taken in any
  order.  Each call looks at, or sets, the mark that the
  client is closed in a step of its own.  A call breaks off
  where the transport panics at a key that it is to bind.

  Key definitions include:
    * `Transport`
    * `Client`
    * `Client.publish`
    * `Client.ping`
    * `Client.Call.step`
    * `Client.subscribe`
    * `Client.unsubscribe`
    * `Client.close`
-/

namespace Courier

open Registration

------------------------------------------------------------
-- Transports
------------------------------------------------------------

/- What a client does on a transport with a given state. -/
structure Transport (H B τ : Type) where
  /- Whether messages are taken at present. -/
  ready : τ → Except Fault Unit
  /- Send a message under a subject. -/
  send :
    Registry H B → String → Message → τ → Except Fault Unit × τ
  /- Feed a handler with the messages of a key. -/
  bind : Key → H → τ → Except Fault B × τ
  /- Whether that breaks off in a panic instead. -/
  panics : Key → Bool
  /- Stop feeding a handler. -/
  unbind : B → τ → Except Fault Unit × τ
  /- Check that the transport can be reached. -/
  ping : Duration → τ → Except Fault Unit
  /- Let go of the connection. -/
  disconnect : τ → Except Fault Unit × τ

/- What a client holds besides its subscriptions. -/
structure Endpoint (τ ω : Type) where
  /- The root of all topics. -/
  root : String
  /- Whether the client was closed. -/
  closed : Bool
  transport : τ
  /- What the handlers act on. -/
  world : ω

/- A client, with its subscriptions. -/
abbrev Client (H B τ ω : Type) :=
  Scene H B (Endpoint τ ω)

namespace Client

variable {H B τ ω : Type}

/- The client on a transport that nobody has used yet. -/
def create
    (root : String)
    (transport : τ)
    (world : ω) : Client H B τ ω where
  registry := .empty
  state :=
    { root := root
      closed := false
      transport := transport
      world := world }

/- Put another state of the transport in. -/
def withTransport
    (c : Client H B τ ω)
    (transport : τ) : Client H B τ ω :=
  { c with state := { c.state with transport := transport } }

/- Put another world in. -/
def withWorld
    (c : Client H B τ ω)
    (world : ω) : Client H B τ ω :=
  { c with state := { c.state with world := world } }

------------------------------------------------------------
-- Messages
------------------------------------------------------------

/-
  Publish a message on the topic of its channel.  Arguments
  are checked ahead of the state of the client.
-/
def publish
    (t : Transport H B τ)
    (topic : String)
    (m : Message)
    (c : Client H B τ ω) : Except Fault Unit × Client H B τ ω :=
  match m.checkFor topic with
  | .error fault => (.error fault, c)
  | .ok () =>
      if c.state.closed then
        (.error .closed, c)
      else
        match t.ready c.state.transport with
        | .error fault => (.error fault, c)
        | .ok () =>
            match Topic.build c.state.root topic m.subtopic with
            | .error fault => (.error fault, c)
            | .ok subject =>
                let (result, transport) :=
                  t.send c.registry subject m c.state.transport
                (result, c.withTransport transport)

/- Check that the transport can be reached. -/
def ping
    (t : Transport H B τ)
    (limit : Duration)
    (c : Client H B τ ω) : Except Fault Unit :=
  if c.state.closed then
    .error .closed
  else
    t.ping limit c.state.transport

/- A client as a publisher. -/
def publisher
    (t : Transport H B τ) : Publisher (Client H B τ ω) where
  publish := publish t
  ping := fun limit c => (ping t limit c, c)

------------------------------------------------------------
-- Calls that change subscriptions
------------------------------------------------------------

/- What is done when a subscription changes. -/
def callbacks
    (t : Transport H B τ)
    (handlers : Handlers H ω) : Callbacks H B (Endpoint τ ω) where
  cancel := fun handler (c : Client H B τ ω) =>
    let (outcome, world) := handlers.cancel handler c.state.world
    (outcome, c.withWorld world)
  bind := fun key handler (c : Client H B τ ω) =>
    let (outcome, transport) := t.bind key handler c.state.transport
    (outcome, c.withTransport transport)
  unbind := fun b (c : Client H B τ ω) =>
    let (outcome, transport) := t.unbind b c.state.transport
    (outcome, c.withTransport transport)

/- Where a call stands. -/
inductive Call (H B : Type) where
  /- It is about to look whether the client is closed. -/
  | entering (request : Request H)
  /- A subscription is being changed. -/
  | changing (call : Registration.Call H B)
  /- The client is about to be marked as closed. -/
  | closing
  /- The subscriptions are being given up. -/
  | clearing (call : Registration.Call H B)
  /- The connection is about to be let go. -/
  | disconnecting
  /- It has returned, or broke off. -/
  | done (result : Except Fault Unit)

namespace Call

/- Whether the transport panics at the next step on the registry. -/
def panics
    (t : Transport H B τ) : Registration.Call H B → Bool
  | .binding key _ _ => t.panics key
  | _ => false

/-
  Take the next step on the registry within a call.  A call
  that breaks off leaves the table as it is.
-/
def proceed
    [DecidableEq H]
    (t : Transport H B τ)
    (handlers : Handlers H ω)
    (within : Registration.Call H B → Call H B)
    (inner : Registration.Call H B)
    (c : Client H B τ ω) : Call H B × Client H B τ ω :=
  if panics t inner then
    (done (.error .panicked), c)
  else
    let (inner, c) := inner.step (callbacks t handlers) c
    (within inner, c)

/- Take the next step, or let the callback at hand run. -/
def step
    [DecidableEq H]
    (t : Transport H B τ)
    (handlers : Handlers H ω)
    (call : Call H B)
    (c : Client H B τ ω) : Call H B × Client H B τ ω :=
  match call with
  | entering request =>
      if c.state.closed then
        (done (.error .closed), c)
      else
        (changing (.start request), c)
  | changing (.done result) => (done result, c)
  | changing inner => proceed t handlers changing inner c
  | closing =>
      if c.state.closed then
        (done (.ok ()), c)
      else
        (clearing (.start .clear),
          { c with state := { c.state with closed := true } })
  | clearing (.done (.ok ())) => (disconnecting, c)
  | clearing (.done (.error fault)) => (done (.error fault), c)
  | clearing inner => proceed t handlers clearing inner c
  | disconnecting =>
      let (result, transport) := t.disconnect c.state.transport
      (done result, c.withTransport transport)
  | done result => (done result, c)

/- Take a number of steps. -/
def steps
    [DecidableEq H]
    (t : Transport H B τ)
    (handlers : Handlers H ω) :
    Nat → Call H B → Client H B τ ω → Call H B × Client H B τ ω
  | 0, call, c => (call, c)
  | n + 1, call, c =>
      let (call, c) := call.step t handlers c
      steps t handlers n call c

/-
  The number of steps after which a call has returned that
  started with some subscriptions in the table.
-/
def mostSteps
    (n : Nat) : Nat :=
  Registration.Call.mostSteps n + 3

/- What a call returned; a call in progress has no fault yet. -/
def result : Call H B → Except Fault Unit
  | done result => result
  | _ => .ok ()

/- Run a call to its end, while no other call takes steps. -/
def run
    [DecidableEq H]
    (t : Transport H B τ)
    (handlers : Handlers H ω)
    (call : Call H B)
    (c : Client H B τ ω) : Except Fault Unit × Client H B τ ω :=
  let (call, c) :=
    steps t handlers (mostSteps c.registry.table.size) call c
  (call.result, c)

end Call

/- Let a handler have the messages of a key. -/
def subscribe
    [DecidableEq H]
    (t : Transport H B τ)
    (handlers : Handlers H ω)
    (key : Key)
    (handler : H) :
    Client H B τ ω → Except Fault Unit × Client H B τ ω :=
  Call.run t handlers (.entering (.subscribe key handler))

/- Give the subscription of a key up. -/
def unsubscribe
    [DecidableEq H]
    (t : Transport H B τ)
    (handlers : Handlers H ω)
    (key : Key) :
    Client H B τ ω → Except Fault Unit × Client H B τ ω :=
  Call.run t handlers (.entering (.unsubscribe key))

/- Give all subscriptions up and let go of the connection. -/
def close
    [DecidableEq H]
    (t : Transport H B τ)
    (handlers : Handlers H ω) :
    Client H B τ ω → Except Fault Unit × Client H B τ ω :=
  Call.run t handlers .closing

end Client

end Courier
