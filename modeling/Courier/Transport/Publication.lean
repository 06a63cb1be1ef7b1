import Courier.Duration
import Courier.Fault
import Courier.Message

/-
  This file defines the check on the arguments of every
  publication, and what can publish messages.

  Key definitions include:
    * `Message.checkFor`
    * `Publisher`
-/

namespace Courier

/-
  Check that a message can be published on a topic: both name
  the same channel.
-/
def Message.checkFor
    (m : Message)
    (topic : String) : Except Fault Unit :=
  if topic.isEmpty then
    .error .emptyTopic
  else if m.channel.isEmpty then
    .error .emptyChannel
  else if m.channel ≠ topic then
    .error (.malformedTopic
      ("message channel " ++ m.channel
        ++ " does not match topic " ++ topic))
  else
    .ok ()

/- What can publish messages, with states of a given type. -/
structure Publisher (σ : Type) where
  /- Publish a message on the topic of its channel. -/
  publish : String → Message → σ → Except Fault Unit × σ
  /- Check that messages are taken, waiting no longer than allowed. -/
  ping : Duration → σ → Except Fault Unit × σ

end Courier
