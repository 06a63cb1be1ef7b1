import Courier.Redis.Connection

/-
  This file defines a Redis server whose next reactions are
  scripted, and which logs the commands that it gets.

  Key definitions include:
    * `Redis.ScriptedServer`
    * `Redis.ScriptedServer.server`
-/

namespace Courier.Redis

/- The state of a scripted server. -/
structure ScriptedServer where
  /- Whether it lets clients in. -/
  up : Bool
  /- How many connections were made. -/
  opened : Nat
  /- How many of them, the oldest ones, were cut. -/
  severed : Nat
  /- The next reactions; nothing stands for the usual one. -/
  script : List (Option Reaction)
  /- How many entries were appended. -/
  appended : Nat
  /- The commands so far, with the numbers of connections. -/
  log : List (Nat × Command)
  deriving DecidableEq, Repr

namespace ScriptedServer

/- The server without a script. -/
def create
    (up : Bool) : ScriptedServer where
  up := up
  opened := 0
  severed := 0
  script := []
  appended := 0
  log := []

/- Add reactions to the script. -/
def cue
    (reactions : List (Option Reaction))
    (s : ScriptedServer) : ScriptedServer :=
  { s with script := s.script ++ reactions }

/- Cut every connection, and let no client in. -/
def shutDown
    (s : ScriptedServer) : ScriptedServer :=
  { s with up := false, severed := s.opened }

/- Let clients in. -/
def startUp
    (s : ScriptedServer) : ScriptedServer :=
  { s with up := true }

/- Let a client in. -/
def accept
    (s : ScriptedServer) : Except Failure Nat × ScriptedServer :=
  if s.up then
    (.ok (s.opened + 1), { s with opened := s.opened + 1 })
  else
    (.error (.unreachable "connection refused"), s)

/- The usual reaction to a command. -/
def respond
    (command : Command)
    (s : ScriptedServer) : Reaction × ScriptedServer :=
  match command with
  | "XADD" :: _ =>
      let n := s.appended + 1
      (.answer (.text (Nat.repr n ++ "-0")), { s with appended := n })
  | _ => (.answer (.text "PONG"), s)

/- React to a command as the script says. -/
def react
    (number : Nat)
    (command : Command)
    (s : ScriptedServer) : Reaction × ScriptedServer :=
  if number ≤ s.severed then
    (.cut, s)
  else
    let s := { s with log := s.log ++ [(number, command)] }
    match s.script with
    | [] => respond command s
    | none :: rest => respond command { s with script := rest }
    | some reaction :: rest => (reaction, { s with script := rest })

/- The scripted server as a server. -/
def server : Server ScriptedServer where
  accept := accept
  react := react

end ScriptedServer

end Courier.Redis
