import Courier.Outbox.Record
import Courier.Outbox.Store
import Courier.Redis.Connection

/-
  This file defines the store on a Redis server, which keeps
  each stream under its name.

  One connection is kept between calls and used by all of
  them.  A call takes it, or makes a new one, and puts it back
  unless it was lost or a reply failed to come.

  Key definitions include:
    * `Redis.Client`
    * `Redis.Client.call`
    * `Redis.store`
-/

namespace Courier.Redis

/- A client, with the state of the server behind it. -/
structure Client (σ : Type) where
  /- The connection that is kept. -/
  cached : Option Connection
  server : σ

namespace Client

variable {σ : Type}

/- The client that has made no connection. -/
def create
    (server : σ) : Client σ where
  cached := none
  server := server

/- Take the connection that is kept, or make one. -/
def take
    (server : Server σ)
    (c : Client σ) : Except Failure Connection × Client σ :=
  match c.cached with
  | some connection => (.ok connection, { c with cached := none })
  | none =>
      let (accepted, s) := server.accept c.server
      match accepted with
      | .ok number => (.ok (.create number), { c with server := s })
      | .error failure => (.error failure, { c with server := s })

/-
  Send a command on a connection and wait for a reply, which
  takes some time at least.
-/
def exchange
    (server : Server σ)
    (limit : Duration)
    (command : Command)
    (connection : Connection)
    (s : σ) : Except Failure String × Connection × σ :=
  if limit = .zero then
    (.error (.unfit "no time to wait"), connection, s)
  else
    connection.exchange server command s

/- Send a command and wait for a reply. -/
def call
    (server : Server σ)
    (limit : Duration)
    (command : Command)
    (c : Client σ) : Except StoreFault String × Client σ :=
  match c.take server with
  | (.error failure, c) => (.error (failure.fault limit), c)
  | (.ok connection, c) =>
      let (result, connection, s) :=
        exchange server limit command connection c.server
      let c := { c with server := s }
      match result with
      | .ok text => (.ok text, { c with cached := some connection })
      | .error failure =>
          if failure.isTransport then
            (.error (failure.fault limit), c)
          else
            (.error (failure.fault limit),
              { c with cached := some connection })

end Client

------------------------------------------------------------
-- The store
------------------------------------------------------------

/- The command that probes a server. -/
def pingCommand : Command :=
  ["PING"]

/-
  The command that appends a record, and trims its stream to
  about the length that it may have.
-/
def appendCommand
    (r : Record) : Command :=
  ["XADD", r.stream, "MAXLEN", "~", Nat.repr r.maxLength.toNat, "*"]
    ++ r.fields.entries.flatMap fun (name, value) => [name, value]

/- What a probe came to; a server that refuses it is no use. -/
def probed : Except StoreFault String → Except StoreFault Unit
  | .ok _ => .ok ()
  | .error (.rejected detail) => .error (.unavailable detail)
  | .error fault => .error fault

/- A Redis server as a store of records. -/
def store
    {σ : Type}
    (server : Server σ)
    (appendTimeout : Duration) : Store Record (Client σ) where
  ping := fun limit c =>
    let (result, c) := c.call server limit pingCommand
    (.immediate (probed result), c)
  append := fun _ r c => c.call server appendTimeout (appendCommand r)

end Courier.Redis
