import Courier.Wire.Reader

/-
  This file defines the wire form of unsigned 64-bit
  integers.  A packing octet tells how many octets of data
  follow, least significant first; an odd packing octet
  announces a minimum of eight octets, which is added to the
  data.  Writing takes the fewest octets and no minimum.

  Key definitions include:
    * `Wire.littleEndian`
    * `Wire.ofLittleEndian`
    * `Wire.writeInteger`
    * `Wire.readInteger`
-/

namespace Courier.Wire

------------------------------------------------------------
-- Little-endian numbers
------------------------------------------------------------

/- How many numbers some octets can hold. -/
def capacity : Nat → Nat
  | 0 => 1
  | width + 1 => 256 * capacity width

/- The low octets of a number, least significant first. -/
def littleEndian : Nat → Nat → Octets
  | 0, _ => []
  | width + 1, n =>
      UInt8.ofNat (n % 256) :: littleEndian width (n / 256)

/- The number with the given octets, least significant first. -/
def ofLittleEndian : Octets → Nat
  | [] => 0
  | octet :: rest => octet.toNat + 256 * ofLittleEndian rest

/- A number that some octets can hold reads back from them. -/
theorem ofLittleEndian_littleEndian
    (width n : Nat)
    (h : n < capacity width) :
    ofLittleEndian (littleEndian width n) = n := by
  induction width generalizing n with
  | zero =>
      simp only [capacity] at h
      simp only [littleEndian, ofLittleEndian]
      omega
  | succ width ih =>
      have hlt : n / 256 < capacity width := by
        apply Nat.div_lt_of_lt_mul
        exact h
      have hmod : (UInt8.ofNat (n % 256)).toNat = n % 256 := by
        simp
      simp only [littleEndian, ofLittleEndian, ih _ hlt, hmod]
      omega

/- The octets of a number are as many as asked for. -/
theorem length_littleEndian
    (width n : Nat) :
    (littleEndian width n).length = width := by
  induction width generalizing n with
  | zero => rfl
  | succ width ih => simp [littleEndian, ih]

------------------------------------------------------------
-- Packed integers
------------------------------------------------------------

/- One more than the largest integer on the wire. -/
def integerBound : Nat :=
  capacity 8

/- The octets of data that an even packing octet announces. -/
def widthOf?
    (packing : Nat) : Option Nat :=
  if packing = 0 then some 8
  else if packing = 2 then some 4
  else if packing = 4 then some 2
  else if packing = 6 then some 1
  else none

/- The wire form of an integer below `integerBound`. -/
def writeInteger
    (n : Nat) : Octets :=
  if n < capacity 1 then 6 :: littleEndian 1 n
  else if n < capacity 2 then 4 :: littleEndian 2 n
  else if n < capacity 4 then 2 :: littleEndian 4 n
  else 0 :: littleEndian 8 n

/- Read the data of an integer, given its width. -/
def readLittleEndian
    (width : Nat) : Reader Nat :=
  fun octets => do
    let (data, rest) ← takeExactly width octets
    return (ofLittleEndian data, rest)

/- Read an integer. -/
def readInteger : Reader Nat :=
  fun octets => do
    let (packing, rest) ← takeOctet octets
    if packing.toNat % 2 = 0 then
      let width ← widthOf? packing.toNat
      readLittleEndian width rest
    else
      let width ← widthOf? (packing.toNat + 1)
      let (minimum, rest) ← readLittleEndian 8 rest
      let (data, rest) ← readLittleEndian width rest
      return ((minimum + data) % integerBound, rest)

end Courier.Wire
