import Courier.Proofs.Wire.Packing
import Courier.Wire.Frame

/-
  Messages read back from their wire form.  Every part of a
  message reads back from what is written for it, whatever
  follows, so the parts read back one after the other.

  Key definitions include:
    * `Message.Fits`

  Main statements:
    * `readInteger_writeInteger`
    * `readLength_writeLength`
    * `readText_writeText`
    * `readPayload_writePayload`
    * `Message.decode_encode`
-/

namespace Courier

namespace Wire

------------------------------------------------------------
-- Integers
------------------------------------------------------------

/- The data of an integer reads back. -/
theorem readLittleEndian_littleEndian
    {width n : Nat}
    (hFits : n < capacity width)
    (rest : Octets) :
    readLittleEndian width (littleEndian width n ++ rest) =
      some (n, rest) := by
  have hTake :
      takeExactly width (littleEndian width n ++ rest) =
        some (littleEndian width n, rest) :=
    takeExactly_append _ rest (length_littleEndian width n)
  simp [readLittleEndian, hTake, ofLittleEndian_littleEndian, hFits]

/- An integer reads back from its packed form. -/
theorem readInteger_writeInteger
    {n : Nat}
    (hFits : n < integerBound)
    (rest : Octets) :
    readInteger (writeInteger n ++ rest) = some (n, rest) := by
  unfold writeInteger
  split
  · rename_i h
    exact readLittleEndian_littleEndian h rest
  · split
    · rename_i h
      exact readLittleEndian_littleEndian h rest
    · split
      · rename_i h
        exact readLittleEndian_littleEndian h rest
      · exact readLittleEndian_littleEndian hFits rest

------------------------------------------------------------
-- Lengths and texts
------------------------------------------------------------

/- Lengths that are not refused can be packed. -/
theorem lt_integerBound_of_lt_lengthLimit
    {n : Nat}
    (hLimit : n < lengthLimit) :
    n < integerBound := by
  have hBound : integerBound = 18446744073709551616 := by decide
  unfold lengthLimit at hLimit
  omega

/- A length below the limit reads back. -/
theorem readLength_writeLength
    {n : Nat}
    (hLimit : n < lengthLimit)
    (rest : Octets) :
    readLength (writeLength n ++ rest) = some (n, rest) := by
  unfold readLength writeLength
  by_cases hShort : n < 255
  · have hOctet : (UInt8.ofNat n).toNat = n :=
      UInt8.toNat_ofNat_of_lt' (Nat.lt_succ_of_lt hShort)
    have hMark : UInt8.ofNat n ≠ longMark := by
      intro hSame
      have hNat := congrArg UInt8.toNat hSame
      rw [hOctet] at hNat
      have hLong : longMark.toNat = 255 := rfl
      omega
    simp [hShort, takeOctet, hMark, hOctet]
  · have hInteger :=
      readInteger_writeInteger
        (lt_integerBound_of_lt_lengthLimit hLimit) rest
    simp [hShort, takeOctet, hInteger, hLimit, guard]

/- A text reads back, if its length is below the limit. -/
theorem readText_writeText
    {s : String}
    (hLimit : (Text.utf8 s).length < lengthLimit)
    (rest : Octets) :
    readText (writeText s ++ rest) = some (s, rest) := by
  have hLength :=
    readLength_writeLength hLimit (Text.utf8 s ++ rest)
  simp [readText, writeText, hLength, Text.ofUtf8?_utf8]

/- A payload reads back, if its length is below the limit. -/
theorem readPayload_writePayload
    {payload : Octets}
    (hLimit : payload.length < lengthLimit)
    (rest : Octets) :
    readPayload (writePayload payload ++ rest) =
      some (payload, rest) := by
  have hLength :=
    readLength_writeLength hLimit (writeBlock payload ++ rest)
  simp [readPayload, writePayload, hLength, readBlock_writeBlock]

------------------------------------------------------------
-- Creation times
------------------------------------------------------------

/- The bits of a signed integer can be packed. -/
theorem bitsOf_lt_integerBound
    (n : Int64) :
    bitsOf n < integerBound := by
  have hBound : integerBound = 2 ^ 64 := by decide
  rw [hBound]
  exact UInt64.toNat_lt n.toUInt64

/- A signed integer reads back from its bits. -/
theorem ofBits_bitsOf
    (n : Int64) :
    ofBits (bitsOf n) = n := by
  simp [ofBits, bitsOf]

end Wire

------------------------------------------------------------
-- Messages
------------------------------------------------------------

namespace Message

open Wire

/- The lengths of a message are below the limit of the format. -/
structure Fits (m : Message) : Prop where
  channel : (Text.utf8 m.channel).length < lengthLimit
  subtopic : (Text.utf8 m.subtopic).length < lengthLimit
  publisher : (Text.utf8 m.publisher).length < lengthLimit
  protocol : (Text.utf8 m.protocol).length < lengthLimit
  payload : m.payload.length < lengthLimit

/- A message reads back, whatever follows it. -/
theorem readMessage_encode
    {m : Message}
    (hFits : m.Fits)
    (rest : Octets) :
    readMessage (m.encode ++ rest) = some (m, rest) := by
  simp [readMessage, encode, readText_writeText hFits.channel,
    readText_writeText hFits.subtopic,
    readText_writeText hFits.publisher,
    readText_writeText hFits.protocol,
    readPayload_writePayload hFits.payload,
    readInteger_writeInteger (bitsOf_lt_integerBound m.created),
    ofBits_bitsOf]

/- A message reads back from its wire form. -/
theorem decode_encode
    {m : Message}
    (hFits : m.Fits) :
    decode m.encode = .ok m := by
  have hRead := readMessage_encode hFits []
  rw [List.append_nil] at hRead
  simp [decode, hRead]

end Message

end Courier
