import Courier.Instant
import Courier.Json.Codec
import Courier.Text.Octets

/-
  This file defines the messages that travel between clients.

  Key definitions include:
    * `Message`
    * `Message.create`
    * `Message.payloadText?`
    * `Message.codec`
-/

namespace Courier

/- A message on a channel. -/
structure Message where
  /- The channel that the message belongs to. -/
  channel : String
  /- The raw subtopic below the channel, possibly empty. -/
  subtopic : String
  /- The client that published the message. -/
  publisher : String
  /- The protocol that the message arrived on. -/
  protocol : String
  /- The content, which the library never interprets. -/
  payload : Octets
  /- Creation time in nanoseconds since the Unix epoch. -/
  created : Int64
  deriving DecidableEq

namespace Message

/- A message on a channel, stamped with the current time. -/
def create
    (now : Instant)
    (channel : String)
    (payload : Octets) : Message where
  channel := channel
  subtopic := ""
  publisher := ""
  protocol := ""
  payload := payload
  created := now.stamp

/- The payload as a text, where it is one. -/
def payloadText?
    (m : Message) : Option String :=
  Text.ofUtf8? m.payload

/- Messages in JSON. -/
def codec : Json.Codec Message :=
  .record
    [ .of "channel" .text (·.channel)
        fun v m => { m with channel := v }
    , .of "subtopic" .text (·.subtopic)
        fun v m => { m with subtopic := v }
    , .of "publisher" .text (·.publisher)
        fun v m => { m with publisher := v }
    , .of "protocol" .text (·.protocol)
        fun v m => { m with protocol := v }
    , .of "payload" (.list .octet) (·.payload)
        fun v m => { m with payload := v }
    , .of "created" .integer (·.created)
        fun v m => { m with created := v } ]
    false
    { channel := "", subtopic := "", publisher := "", protocol := ""
      payload := [], created := 0 }

end Message

end Courier
