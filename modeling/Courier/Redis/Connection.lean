import Courier.Outbox.Fault

/-
  This file defines connections to a Redis server, on which
  replies come in the order of their commands.

  A reply that comes too late for its own command stays on the
  connection, and is what the next read there finds.

  Key definitions include:
    * `Redis.Failure`
    * `Redis.Reply`
    * `Redis.Reaction`
    * `Redis.Server`
    * `Redis.Connection`
    * `Redis.Connection.exchange`
-/

namespace Courier.Redis

------------------------------------------------------------
-- Failures
------------------------------------------------------------

/- What is known of a command that failed. -/
structure Failure where
  detail : String
  /- No reply came in time. -/
  isTimeout : Bool
  /- Data could not be read or written. -/
  isIo : Bool
  /- The connection went away. -/
  isDropped : Bool
  /- The server let no connection in. -/
  isRefusal : Bool
  /- Letting nobody in fails as reading and writing do. -/
  isIo_of_isRefusal : isRefusal = true → isIo = true
  deriving DecidableEq

namespace Failure

/- No reply came in time. -/
def timedOut : Failure where
  detail := "no reply in time"
  isTimeout := true
  isIo := true
  isDropped := false
  isRefusal := false
  isIo_of_isRefusal := fun _ => rfl

/- The connection was lost. -/
def lost
    (detail : String) : Failure where
  detail := detail
  isTimeout := false
  isIo := true
  isDropped := true
  isRefusal := false
  isIo_of_isRefusal := fun _ => rfl

/- The connection could not be made ready. -/
def unfit
    (detail : String) : Failure where
  detail := detail
  isTimeout := false
  isIo := true
  isDropped := false
  isRefusal := false
  isIo_of_isRefusal := fun _ => rfl

/- No connection could be made. -/
def unreachable
    (detail : String) : Failure where
  detail := detail
  isTimeout := false
  isIo := true
  isDropped := false
  isRefusal := true
  isIo_of_isRefusal := fun _ => rfl

/- The server replied, but not with a text. -/
def refused
    (detail : String) : Failure where
  detail := detail
  isTimeout := false
  isIo := false
  isDropped := false
  isRefusal := false
  isIo_of_isRefusal := fun h => (by cases h)

/- The fault of the store behind a failure. -/
def fault
    (limit : Duration)
    (f : Failure) : StoreFault :=
  if f.isTimeout then
    .timeout limit
  else if f.isIo || f.isDropped || f.isRefusal then
    .unavailable f.detail
  else
    .rejected f.detail

/- Whether the connection cannot be used again. -/
def isTransport
    (f : Failure) : Bool :=
  f.isIo || f.isDropped || f.isTimeout

end Failure

------------------------------------------------------------
-- Servers
------------------------------------------------------------

/- The words of a command. -/
abbrev Command :=
  List String

/- A reply of a server. -/
inductive Reply where
  | text (s : String)
  | integer (n : Int)
  | nil
  | error (line : String)
  deriving DecidableEq, Repr

/- What a server does with a command. -/
inductive Reaction where
  /- It replies in time. -/
  | answer (reply : Reply)
  /- It replies after the client gave up. -/
  | late (reply : Reply)
  /- It never replies. -/
  | silence
  /- It cuts the connection. -/
  | cut
  deriving DecidableEq, Repr

/- A server, with states of a given type. -/
structure Server (σ : Type) where
  /- The number of a new connection, or why there is none. -/
  accept : σ → Except Failure Nat × σ
  /- What happens to a command on the connection with a number. -/
  react : Nat → Command → σ → Reaction × σ

------------------------------------------------------------
-- Connections
------------------------------------------------------------

/- The text of a reply. -/
def Reply.toText : Reply → Except Failure String
  | .text s => .ok s
  | .integer _ => .error (.refused "reply is an integer")
  | .nil => .error (.refused "reply is nil")
  | .error line => .error (.refused line)

/- A connection to a server. -/
structure Connection where
  number : Nat
  /-
    The replies to the commands that have not had any, oldest
    first; nothing stands for one that never comes.
  -/
  owed : List (Option Reply)
  deriving DecidableEq, Repr

namespace Connection

/- The connection on which nothing was sent. -/
def create
    (number : Nat) : Connection where
  number := number
  owed := []

/-
  Read the first reply that is owed, where the last one may
  come too late.
-/
def read
    (late : Bool)
    (c : Connection) : Except Failure String × Connection :=
  match c.owed with
  | some reply :: rest =>
      if late && rest.isEmpty then
        (.error .timedOut, c)
      else
        (reply.toText, { c with owed := rest })
  | _ => (.error .timedOut, c)

/- Owe one more reply. -/
def owe
    (reply : Option Reply)
    (c : Connection) : Connection :=
  { c with owed := c.owed ++ [reply] }

/- Send a command and read a reply. -/
def exchange
    {σ : Type}
    (server : Server σ)
    (command : Command)
    (c : Connection)
    (s : σ) : Except Failure String × Connection × σ :=
  let (reaction, s) := server.react c.number command s
  match reaction with
  | .answer reply =>
      let (result, c) := (c.owe (some reply)).read false
      (result, c, s)
  | .late reply =>
      let (result, c) := (c.owe (some reply)).read true
      (result, c, s)
  | .silence =>
      let (result, c) := (c.owe none).read false
      (result, c, s)
  | .cut => (.error (.lost "connection cut"), c, s)

end Connection

end Courier.Redis
