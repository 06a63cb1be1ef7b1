import Courier.Wire.Frame

/-
  This file defines the handlers that messages are delivered
  to.  Handlers act on a world of their own.

  Key definitions include:
    * `Handlers`
    * `Handlers.receive`
    * `Listener`
    * `Listener.handlers`
-/

namespace Courier

------------------------------------------------------------
-- Handlers
------------------------------------------------------------

/- How a handler took a message. -/
inductive Handled where
  | ok
  /- It failed; the subscription stays active. -/
  | failed (detail : String)
  /- It broke down; it is given nothing more. -/
  | broken
  deriving DecidableEq, Repr

/- What the handlers of a given type do. -/
structure Handlers (H ω : Type) where
  /- Take a message. -/
  handle : H → Message → ω → Handled × ω
  /- Detach, before the transport does. -/
  cancel : H → ω → Except String Unit × ω

/-
  Give a handler the message with a wire form, if there is
  one.  The answer is whether the handler can be given more.
-/
def Handlers.receive
    {H ω : Type}
    (handlers : Handlers H ω)
    (handler : H)
    (octets : Octets)
    (w : ω) : Bool × ω :=
  match Message.decode octets with
  | .error _ => (true, w)
  | .ok m =>
      let (handled, w) := handlers.handle handler m w
      match handled with
      | .broken => (false, w)
      | _ => (true, w)

------------------------------------------------------------
-- Listeners
------------------------------------------------------------

/- A handler that keeps what it is given. -/
structure Listener where
  /- What tells it from every other listener. -/
  id : Nat
  /- The name under which messages are kept. -/
  name : String
  /- Whether its cancelling leaves no trace. -/
  silent : Bool
  /- What it fails with when it is given a message. -/
  handleError : Option String
  /- What it fails with when it is cancelled. -/
  cancelError : Option String
  /- Whether it breaks down at the first message. -/
  breaks : Bool
  deriving DecidableEq, Repr

namespace Listener

/- What listeners were given, and which were cancelled. -/
structure Log where
  received : List (String × Message)
  cancelled : List String

/- The log in which nothing happened. -/
def Log.empty : Log where
  received := []
  cancelled := []

/- The messages that were kept under a name. -/
def Log.of
    (log : Log)
    (name : String) : List Message :=
  (log.received.filter fun entry => entry.1 == name).map (·.2)

/- How a listener takes a message. -/
def handle
    (l : Listener)
    (m : Message)
    (log : Log) : Handled × Log :=
  let log := { log with received := log.received ++ [(l.name, m)] }
  if l.breaks then
    (.broken, log)
  else
    match l.handleError with
    | none => (.ok, log)
    | some detail => (.failed detail, log)

/- How a listener is cancelled. -/
def cancel
    (l : Listener)
    (log : Log) : Except String Unit × Log :=
  if l.silent then
    (.ok (), log)
  else
    let log := { log with cancelled := log.cancelled ++ [l.name] }
    match l.cancelError with
    | none => (.ok (), log)
    | some detail => (.error detail, log)

/- What listeners do. -/
def handlers : Handlers Listener Log where
  handle := handle
  cancel := cancel

end Listener

end Courier
