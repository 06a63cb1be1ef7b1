import Courier.Fault

/-
  This file defines the keys that subscriptions are held
  under: a client and the pattern of topics that it asked for.

  Key definitions include:
    * `Registration.Key`
    * `Registration.Key.check`
-/

namespace Courier.Registration

/- The key of a subscription. -/
structure Key where
  /- The client that subscribed. -/
  client : String
  /- The pattern of the topics that it asked for. -/
  topic : String
  deriving DecidableEq, Repr

/-
  Check that a key can be used.  Of two empty parts the
  client is reported.
-/
def Key.check
    (key : Key) : Except Fault Unit :=
  if key.client.isEmpty then
    .error .emptyId
  else if key.topic.isEmpty then
    .error .emptyTopic
  else
    .ok ()

end Courier.Registration
