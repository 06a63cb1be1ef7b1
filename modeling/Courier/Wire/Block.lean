import Courier.Wire.Length

/-
  This file defines the wire form of blocks of octets.  A
  block of three or more is packed: where its octets are all
  small, several of them share one octet as the digits of a
  number.  Where they are large but close together, and
  there are more than five, the least of them is written
  first and taken from the others.

  Key definitions include:
    * `Wire.Layout`
    * `Wire.Layout.ofLargest`
    * `Wire.Layout.pack`
    * `Wire.Layout.unpack`
    * `Wire.writeBlock`
    * `Wire.readBlock`
-/

namespace Courier.Wire

------------------------------------------------------------
-- Layouts
------------------------------------------------------------

/- How the octets of a block are laid out. -/
inductive Layout where
  | raw
  | base16
  | base6
  | base4
  | base3
  | base2
  deriving DecidableEq, Repr

namespace Layout

/- The layouts, from the loosest to the tightest. -/
def all : List Layout :=
  [raw, base16, base6, base4, base3, base2]

/- The number of values that a digit can have. -/
def base : Layout → Nat
  | raw => 256
  | base16 => 16
  | base6 => 6
  | base4 => 4
  | base3 => 3
  | base2 => 2

/- The number of digits in an octet. -/
def perOctet : Layout → Nat
  | raw => 1
  | base16 => 2
  | base6 => 3
  | base4 => 4
  | base3 => 5
  | base2 => 8

/- The packing octet of a layout without a minimum. -/
def code : Layout → Nat
  | raw => 0
  | base16 => 2
  | base6 => 4
  | base4 => 6
  | base3 => 8
  | base2 => 10

/- The layout with the given packing octet. -/
def ofCode?
    (code : Nat) : Option Layout :=
  all.find? fun layout => layout.code == code

/- The tightest layout whose digits reach a given octet. -/
def ofLargest
    (largest : UInt8) : Layout :=
  if largest ≤ 1 then base2
  else if largest ≤ 2 then base3
  else if largest ≤ 3 then base4
  else if largest ≤ 5 then base6
  else if largest ≤ 15 then base16
  else raw

/- Whether one layout is tighter than another. -/
def tighter
    (a b : Layout) : Bool :=
  decide (b.code < a.code)

------------------------------------------------------------
-- Digits
------------------------------------------------------------

/- The number with given digits, least significant first. -/
def ofDigits
    (base : Nat)
    (digits : Octets) : Nat :=
  digits.foldr (fun digit n => digit.toNat + base * n) 0

/- The low digits of a number, least significant first. -/
def digits
    (base : Nat) : Nat → Nat → Octets
  | 0, _ => []
  | count + 1, n =>
      UInt8.ofNat (n % base) :: digits base count (n / base)

/-
  Cut a list into groups of `extra + 1`; the last group may
  be shorter.
-/
def groups
    {α : Type}
    (extra : Nat) : List α → List (List α)
  | [] => []
  | first :: rest =>
      (first :: rest.take extra) :: groups extra (rest.drop extra)
  termination_by xs => xs.length
  decreasing_by
    simp only [List.length_drop, List.length_cons]
    omega

/- Pack digits into octets. -/
def pack
    (layout : Layout)
    (octets : Octets) : Octets :=
  match layout with
  | raw => octets
  | _ =>
      (groups (layout.perOctet - 1) octets).map fun group =>
        UInt8.ofNat (ofDigits layout.base group)

/- The number of octets that a number of digits takes. -/
def packedLength
    (layout : Layout)
    (n : Nat) : Nat :=
  (n + layout.perOctet - 1) / layout.perOctet

/- Read the given number of digits. -/
def unpack
    (layout : Layout)
    (n : Nat) : Reader Octets :=
  fun octets => do
    let (data, rest) ← takeExactly (layout.packedLength n) octets
    match layout with
    | raw => return (data, rest)
    | _ =>
        let all := data.flatMap fun octet =>
          digits layout.base layout.perOctet octet.toNat
        return (all.take n, rest)

end Layout

------------------------------------------------------------
-- Blocks
------------------------------------------------------------

/- Blocks of at most this many octets are not packed. -/
def plainLimit : Nat :=
  2

/- A minimum pays off only in blocks longer than this. -/
def minimumLimit : Nat :=
  5

/- The largest octet of a block. -/
def largest
    (octets : Octets) : UInt8 :=
  octets.foldl max 0

/- The least octet of a block. -/
def least
    (octets : Octets) : UInt8 :=
  octets.foldl min 255

/- The wire form of a block, its length aside. -/
def writeBlock
    (octets : Octets) : Octets :=
  if octets.length ≤ plainLimit then
    octets
  else
    let floor := least octets
    let plain := Layout.ofLargest (largest octets)
    let lowered := Layout.ofLargest (largest octets - floor)
    if lowered.tighter plain && decide (minimumLimit < octets.length) then
      UInt8.ofNat (lowered.code - 1) ::
        floor :: lowered.pack (octets.map (· - floor))
    else
      UInt8.ofNat plain.code :: plain.pack octets

/- Read a block of the given length. -/
def readBlock
    (n : Nat) : Reader Octets :=
  fun octets =>
    if n ≤ plainLimit then
      takeExactly n octets
    else do
      let (packing, rest) ← takeOctet octets
      if packing.toNat % 2 = 0 then
        let layout ← Layout.ofCode? packing.toNat
        layout.unpack n rest
      else
        let layout ← Layout.ofCode? (packing.toNat + 1)
        let (floor, rest) ← takeOctet rest
        let (data, rest) ← layout.unpack n rest
        return (data.map (· + floor), rest)

end Courier.Wire
