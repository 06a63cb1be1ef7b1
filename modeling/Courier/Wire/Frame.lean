import Courier.Fault
import Courier.Message
import Courier.Wire.Block

/-
  This file defines the wire form of messages: channel,
  subtopic, publisher and protocol as texts, the length of
  the payload and the payload as a block, and the creation
  time as the integer with the same bits.  Nothing follows.

  Key definitions include:
    * `Message.encode`
    * `Message.decode`
-/

namespace Courier

namespace Wire

/- The bits of a signed integer as an unsigned one. -/
def bitsOf
    (n : Int64) : Nat :=
  n.toUInt64.toNat

/- The signed integer with the given bits. -/
def ofBits
    (n : Nat) : Int64 :=
  (UInt64.ofNat n).toInt64

/- The wire form of a payload. -/
def writePayload
    (payload : Octets) : Octets :=
  writeLength payload.length ++ writeBlock payload

/- Read a payload. -/
def readPayload : Reader Octets :=
  fun octets => do
    let (n, rest) ← readLength octets
    readBlock n rest

/- Read a message. -/
def readMessage : Reader Message :=
  fun octets => do
    let (channel, rest) ← readText octets
    let (subtopic, rest) ← readText rest
    let (publisher, rest) ← readText rest
    let (protocol, rest) ← readText rest
    let (payload, rest) ← readPayload rest
    let (bits, rest) ← readInteger rest
    return (
      { channel, subtopic, publisher, protocol, payload
        created := ofBits bits },
      rest)

end Wire

namespace Message

open Wire

/- The wire form of a message. -/
def encode
    (m : Message) : Octets :=
  writeText m.channel ++
  writeText m.subtopic ++
  writeText m.publisher ++
  writeText m.protocol ++
  writePayload m.payload ++
  writeInteger (bitsOf m.created)

/- The message with the given wire form. -/
def decode
    (octets : Octets) : Except Fault Message :=
  match readMessage octets with
  | some (m, []) => .ok m
  | some (_, _ :: _) => .error (.codec "octets follow the message")
  | none => .error (.codec "malformed message")

end Message

end Courier
