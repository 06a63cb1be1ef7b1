import Courier.Proofs.Topic.Words
import Courier.Proofs.Transport.Session
import Mathlib.Data.Multiset.Basic

/-
  This file defines conversations with a client.  Calls are
  made one after the other, and between two of them all that
  waits is delivered to handlers, in any order.  The table of
  subscriptions may be read in another order by each call.

  An account of each call is kept: what it returned, and what
  an onlooker sees once all has been delivered.  The accounts
  of a conversation are what clients are compared by.

  Key definitions include:
    * `Ask`, `Ask.answer`, `Ask.Allowed`, `Ask.heard`
    * `Box`, `Line`
    * `Diary`, `Handlers.noted`
    * `Line.Exchange`
    * `Account`
    * `Line.Converses`
-/

namespace Courier

open Registration

variable {H τ ω ι : Type}

------------------------------------------------------------
-- Calls
------------------------------------------------------------

/- What is asked of a client. -/
inductive Ask (H : Type) where
  | publish (topic : String) (m : Message)
  | subscribe (key : Key) (handler : H)
  | unsubscribe (key : Key)
  | ping (limit : Duration)
  | close

namespace Ask

/- Make a call that runs to its end. -/
def answer
    {B : Type}
    [DecidableEq H]
    (t : Transport H B τ)
    (handlers : Handlers H ω) :
    Ask H → Client H B τ ω → Except Fault Unit × Client H B τ ω
  | publish topic m, c => c.publish t topic m
  | subscribe key handler, c => c.subscribe t handlers key handler
  | unsubscribe key, c => c.unsubscribe t handlers key
  | ping limit, c => (c.ping t limit, c)
  | close, c => c.close t handlers

/- The handler that is to be subscribed. -/
def handler? : Ask H → Option H
  | subscribe _ handler => some handler
  | _ => none

/-
  A message is no larger than allowed, a pattern of topics is
  empty or well-formed, and a thread can be named after the
  client that subscribes.
-/
def Allowed
    (limit : Nat) : Ask H → Prop
  | publish _ m => m.encode.length ≤ limit
  | subscribe key _ =>
      (key.topic = "" ∨ Topic.IsPattern key.topic) ∧
        '\x00' ∉ key.client.toList
  | _ => True

/-
  What a call returns where pings have answers of their own: a
  ping that nothing speaks against comes out as answered.
-/
def heard
    (pong : Duration → Except Fault Unit) :
    Ask H → Except Fault Unit → Except Fault Unit
  | ping limit, .ok () => pong limit
  | _, result => result

end Ask

------------------------------------------------------------
-- Deliveries
------------------------------------------------------------

/- What feeds the handler of a subscription. -/
structure Box (H : Type) where
  handler : H
  /- Whether more may come to wait. -/
  live : Bool
  /- The payloads that wait. -/
  waiting : List Octets

/- Nothing waits in any of some boxes. -/
def AllEmpty
    (boxes : List (Box H)) : Prop :=
  ∀ box ∈ boxes, box.waiting = []

/- A transport, with the deliveries that it makes to handlers. -/
structure Line (H τ ω ι : Type) where
  transport : Transport H Nat τ
  /- What feeds handlers, by the numbers of the bindings. -/
  boxes : τ → List (Box H)
  /- Deliver the first payload that waits at a place, if any. -/
  deliver : Handlers H ω → ι → Client H Nat τ ω → Client H Nat τ ω

namespace Line

/- Deliver from one place after the other. -/
def deliverAll
    (line : Line H τ ω ι)
    (handlers : Handlers H ω)
    (places : List ι)
    (c : Client H Nat τ ω) : Client H Nat τ ω :=
  places.foldl (fun c place => line.deliver handlers place c) c

/- Nothing waits any more. -/
def Idle
    (line : Line H τ ω ι)
    (c : Client H Nat τ ω) : Prop :=
  AllEmpty (line.boxes c.state.transport)

/-
  A call was made, and then all that waited was delivered.
-/
inductive Exchange
    [DecidableEq H]
    (line : Line H τ ω ι)
    (handlers : Handlers H ω)
    (c : Client H Nat τ ω)
    (ask : Ask H) :
    Except Fault Unit → Client H Nat τ ω → Prop where
  | settled
      {r : Registry H Nat}
      {result : Except Fault Unit}
      {called last : Client H Nat τ ω}
      (hReordered : c.registry.Reordered r)
      (hAnswer :
        ask.answer line.transport handlers { c with registry := r } =
          (result, called))
      (places : List ι)
      (hDelivered : line.deliverAll handlers places called = last)
      (hIdle : line.Idle last) :
      Exchange line handlers c ask result last

end Line

------------------------------------------------------------
-- Accounts
------------------------------------------------------------

/- What some handlers were passed, and which were cancelled. -/
structure Diary (H ω : Type) where
  watch : Watch H ω
  cancelled : List H

/- The same handlers, where their cancelling is noted as well. -/
def Handlers.noted
    (handlers : Handlers H ω) : Handlers H (Diary H ω) where
  handle := fun handler m d =>
    let (handled, watch) := handlers.watched.handle handler m d.watch
    (handled, { d with watch })
  cancel := fun handler d =>
    let (outcome, watch) := handlers.watched.cancel handler d.watch
    (outcome, { watch, cancelled := d.cancelled ++ [handler] })

/- The diary of handlers to which nothing happened yet. -/
def Diary.start
    (world : ω) : Diary H ω where
  watch := { world, seen := [] }
  cancelled := []

/- What is seen of a client after a call. -/
@[ext]
structure Account (H : Type) where
  /- What the call returned. -/
  result : Except Fault Unit
  /- The keys that have a subscription now. -/
  registered : Key → Bool
  /- The handlers that were cancelled so far. -/
  cancelled : Multiset H
  /- The messages that each handler has received so far. -/
  received : Multiset (H × Message)

/- What is seen of a client after a call with a given result. -/
def Account.of
    (result : Except Fault Unit)
    (c : Client H Nat τ (Diary H ω)) : Account H where
  result := result
  registered := c.registry.contains
  cancelled := c.state.world.cancelled
  received := c.state.world.watch.seen

/- The account of a call where pings have answers of their own. -/
def Account.heard
    (pong : Duration → Except Fault Unit)
    (ask : Ask H)
    (account : Account H) : Account H :=
  { account with result := ask.heard pong account.result }

/- The accounts of some calls that are made one after the other. -/
inductive Line.Converses
    [DecidableEq H]
    (line : Line H τ (Diary H ω) ι)
    (handlers : Handlers H ω) :
    Client H Nat τ (Diary H ω) → List (Ask H) → List (Account H) → Prop where
  | nothing (c : Client H Nat τ (Diary H ω)) :
      Converses line handlers c [] []
  | call
      {c c' : Client H Nat τ (Diary H ω)}
      {ask : Ask H}
      {asks : List (Ask H)}
      {result : Except Fault Unit}
      {accounts : List (Account H)}
      (hExchange : line.Exchange handlers.noted c ask result c')
      (hRest : Converses line handlers c' asks accounts) :
      Converses line handlers c (ask :: asks)
        (.of result c' :: accounts)

end Courier
