import Courier.Outbox.Record
import Courier.Outbox.Store

/-
  This file defines the stream store in memory.  It can be
  made unavailable, slow to answer probes, or set to reject a
  number of appends.

  Key definitions include:
    * `MemoryStore`
    * `MemoryStore.ping`
    * `MemoryStore.append`
    * `MemoryStore.store`
-/

namespace Courier

/- An entry of a stream. -/
structure Entry where
  id : String
  fields : Fields
  deriving DecidableEq

/- The state of a store in memory. -/
structure MemoryStore where
  /- The streams, each with its oldest entry first. -/
  streams : Dict (List Entry)
  available : Bool
  /- How long a probe waits for its answer. -/
  latency : Duration
  /- How many appends are still to be rejected. -/
  failing : Nat
  /- The number of the next entry. -/
  sequence : Nat

namespace MemoryStore

------------------------------------------------------------
-- Construction
------------------------------------------------------------

/- The store without streams. -/
def empty : MemoryStore where
  streams := .empty
  available := true
  latency := .zero
  failing := 0
  sequence := 0

/- Make the store available or not. -/
def setAvailable
    (s : MemoryStore)
    (available : Bool) : MemoryStore :=
  { s with available := available }

/- Delay the answers to probes by whole milliseconds. -/
def setLatency
    (s : MemoryStore)
    (latency : Duration) : MemoryStore :=
  { s with latency := .ofMilliseconds latency.wholeMilliseconds }

/- Reject the next appends. -/
def failNextAppends
    (s : MemoryStore)
    (n : Nat) : MemoryStore :=
  { s with failing := n }

/- The entries of a stream, oldest first. -/
def entries
    (s : MemoryStore)
    (stream : String) : List Entry :=
  (s.streams.get? stream).getD []

------------------------------------------------------------
-- Operations
------------------------------------------------------------

/- The fault of a store that is not available. -/
def offline : StoreFault :=
  .unavailable "in-memory store offline"

/- Probe the store. -/
def ping
    (limit : Duration)
    (s : MemoryStore) : Probe :=
  if !s.available then
    .immediate (.error offline)
  else if s.latency.exceeds limit then
    .after limit (.error (.timeout limit))
  else
    .after s.latency (.ok ())

/- Entries without the oldest ones in excess of a cap. -/
def trim
    (cap : Nat)
    (entries : List Entry) : List Entry :=
  if cap = 0 then
    entries
  else
    entries.drop (entries.length - cap)

/- The id of an entry: the time in milliseconds, and its number. -/
def entryId
    (now : Instant)
    (sequence : Nat) : String :=
  Nat.repr (now.unixSeconds * 1000) ++ "-" ++ Nat.repr sequence

/- Append a record to its stream. -/
def append
    (now : Instant)
    (record : Record)
    (s : MemoryStore) : Except StoreFault String × MemoryStore :=
  if !s.available then
    (.error offline, s)
  else if s.failing ≠ 0 then
    (.error (.rejected "injected append failure"),
      { s with failing := s.failing - 1 })
  else
    let id := entryId now s.sequence
    let extended := s.entries record.stream ++ [⟨id, record.fields⟩]
    (.ok id,
      { s with
        sequence := s.sequence + 1
        streams := s.streams.insert record.stream
          (trim record.maxLength.toNat extended) })

/- The store in memory as a store of records. -/
def store : Store Record MemoryStore where
  ping := fun limit s => (s.ping limit, s)
  append := append

end MemoryStore

end Courier
