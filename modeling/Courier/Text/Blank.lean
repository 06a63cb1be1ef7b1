/-
  This file defines the blank characters, those with the
  Unicode property `White_Space`, and the removal of blanks
  at both ends of a text.

  Key definitions include:
    * `blankRanges`
    * `isBlank`
    * `trim`
-/

namespace Courier.Text

------------------------------------------------------------
-- Blank characters
------------------------------------------------------------

/-
  The ranges of code points with the property
  `White_Space`, first and last point of each.
-/
def blankRanges : List (Nat × Nat) :=
  [(0x0009, 0x000D), (0x0020, 0x0020), (0x0085, 0x0085),
   (0x00A0, 0x00A0), (0x1680, 0x1680), (0x2000, 0x200A),
   (0x2028, 0x2029), (0x202F, 0x202F), (0x205F, 0x205F),
   (0x3000, 0x3000)]

/- A character is blank when one of the ranges holds it. -/
def isBlank
    (c : Char) : Bool :=
  blankRanges.any fun (first, last) =>
    decide (first ≤ c.toNat) && decide (c.toNat ≤ last)

/- The table holds twenty-five characters. -/
example :
    (blankRanges.map fun (first, last) => last + 1 - first).sum = 25 := by
  decide

/- The table is in increasing order without overlap. -/
example :
    blankRanges.Pairwise fun a b => a.2 < b.1 := by
  decide

------------------------------------------------------------
-- Trimming
------------------------------------------------------------

/- Remove the blanks at both ends of a text. -/
def trim
    (s : String) : String :=
  String.ofList
    (((s.toList.dropWhile isBlank).reverse.dropWhile isBlank).reverse)

end Courier.Text
