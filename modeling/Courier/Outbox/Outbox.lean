import Courier.Outbox.MemoryStore
import Courier.Outbox.Worker
import Courier.Settings.Outbox

/-
  This file defines the outbox of a service: events become
  records of one stream, which are appended to a store or
  wait in a buffer until the store can be reached.

  Key definitions include:
    * `Outbox`
    * `Outbox.create`
    * `Outbox.publish`
    * `Outbox.flush`
    * `Outbox.settle`
-/

namespace Courier

/- An outbox over a store with states of a given type. -/
structure Outbox (σ : Type) where
  /- The stream of the records. -/
  stream : String
  /- About how many entries the stream keeps. -/
  streamLength : UInt64
  /- How long a probe may take. -/
  probeTimeout : Duration
  shared : Shared Record σ

namespace Outbox

variable {σ : Type}

/- An outbox with nothing waiting. -/
def create
    (settings : OutboxSettings)
    (s : σ) : Outbox σ where
  stream := settings.stream
  streamLength := settings.streamLength
  probeTimeout := settings.probeTimeout
  shared :=
    { store := s
      buffer := .create settings.bufferCapacity.toNat }

/- The record of an event on the stream of the outbox. -/
def recordOf
    (o : Outbox σ)
    (now : Instant)
    (event : Event) : Record :=
  .ofEvent now o.stream o.streamLength event

/- Publish an event. -/
def publish
    (store : Store Record σ)
    (now : Instant)
    (event : Event)
    (policy : EmitPolicy)
    (o : Outbox σ) : Except OutboxFault Unit × Outbox σ :=
  let (result, shared) :=
    Publishing.run store o.probeTimeout now (o.recordOf now event)
      policy o.shared
  (result, { o with shared := shared })

/- Retry the records that wait. -/
def flush
    (store : Store Record σ)
    (now : Instant)
    (o : Outbox σ) : FlushResult × Outbox σ :=
  let (result, shared) :=
    Flushing.run store o.probeTimeout now o.shared
  (result, { o with shared := shared })

/-
  Let a worker retry the records that wait until a condition
  on the store holds; at most as many times as the fuel
  allows.
-/
def settle
    (store : Store Record σ)
    (now : Instant)
    (settled : σ → Bool)
    (fuel : Nat)
    (o : Outbox σ) : FlushStats × Outbox σ :=
  let (stats, shared) :=
    Worker.runUntil store o.probeTimeout now
      (fun s => settled s.store) fuel .zero o.shared
  (stats, { o with shared := shared })

/- The records that wait, oldest first. -/
def unpublished
    (o : Outbox σ) : List Record :=
  o.shared.buffer.items

/- How many records wait. -/
def pending
    (o : Outbox σ) : Nat :=
  o.shared.buffer.length

/- How many records were evicted. -/
def evicted
    (o : Outbox σ) : Nat :=
  o.shared.buffer.evicted

end Outbox

end Courier
