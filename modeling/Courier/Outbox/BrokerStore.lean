import Courier.Outbox.Fields
import Courier.Outbox.Store
import Courier.Transport.Publication

/-
  This file defines the store that appends records by
  publishing them.  A record becomes a message on one channel,
  under the subtopic of its stream, with its fields as JSON.

  Key definitions include:
    * `BrokerStore.message`
    * `BrokerStore.fault`
    * `BrokerStore.store`
-/

namespace Courier.BrokerStore

/- The channel that records are published on unless configured. -/
def eventsChannel : String :=
  "events"

/- Whom the messages of records are from. -/
def publisherId : String :=
  "outbox"

/- The protocol that the messages of records came by. -/
def protocol : String :=
  "event"

/- The message of a record. -/
def message
    (now : Instant)
    (channel : String)
    (r : Record) : Message :=
  { Message.create now channel
      (Text.utf8 (Fields.jsonOfTexts r.fields)) with
    subtopic := r.stream
    publisher := publisherId
    protocol := protocol }

/- The id of a record, made of its stream and its time. -/
def entryId
    (r : Record)
    (m : Message) : String :=
  r.stream ++ "-" ++ (Json.Value.integer m.created).render

/- The fault of a publication as a fault of the store. -/
def fault
    (f : Fault) : StoreFault :=
  if f.isConnection then
    .unavailable f.message
  else
    .rejected f.message

/- The outcome of a publication as one of the store. -/
def outcome : Except Fault Unit → Except StoreFault Unit
  | .ok () => .ok ()
  | .error f => .error (fault f)

/- Publish a record. -/
def append
    {σ : Type}
    (p : Publisher σ)
    (channel : String)
    (now : Instant)
    (r : Record)
    (s : σ) : Except StoreFault String × σ :=
  let m := message now channel r
  let (result, s) := p.publish channel m s
  match outcome result with
  | .ok () => (.ok (entryId r m), s)
  | .error f => (.error f, s)

/- A publisher as a store of records. -/
def store
    {σ : Type}
    (p : Publisher σ)
    (channel : String) : Store Record σ where
  ping := fun limit s =>
    let (result, s) := p.ping limit s
    (.immediate (outcome result), s)
  append := append p channel

end Courier.BrokerStore
