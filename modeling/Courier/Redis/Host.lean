import Courier.Text.Numeral
import Courier.Text.Percent

/-
  This file defines the hosts in addresses: a name, or eight
  groups of hexadecimal digits in brackets, and possibly a
  port.

  Key definitions include:
    * `Redis.Host.isLiteral`
    * `Redis.Host.behindPort?`
    * `Redis.Host.cut?`
-/

namespace Courier.Redis.Host

------------------------------------------------------------
-- Cutting texts
------------------------------------------------------------

/- A text cut where its first part ends that has a property. -/
def cutBefore
    (p : Char → Bool)
    (cs : List Char) : List Char × List Char :=
  cs.span fun c => !p c

/- The pieces of a text, cut at every separator. -/
def pieces
    (separator : Char) : List Char → List (List Char)
  | [] => [[]]
  | c :: rest =>
      match pieces separator rest with
      | [] => [[]]
      | first :: others =>
          if c = separator then
            [] :: first :: others
          else
            (c :: first) :: others

/- A text cut at its first pair of colons, if there is one. -/
def cutAtGap? : List Char → Option (List Char × List Char)
  | [] => none
  | c :: rest =>
      match c, rest with
      | ':', ':' :: tail => some ([], tail)
      | _, _ => (cutAtGap? rest).map fun (before, tail) => (c :: before, tail)

------------------------------------------------------------
-- Literal addresses
------------------------------------------------------------

/- Whether a text is a number below 256 without leading zeros. -/
def isByte
    (cs : List Char) : Bool :=
  !cs.isEmpty && cs.all Char.isDigit
    && (cs.length = 1 || cs.head? ≠ some '0')
    && decide (Text.ofDecimalDigits cs < 256)

/- Whether a text is four bytes with dots between them. -/
def isQuad
    (cs : List Char) : Bool :=
  (pieces '.' cs).length = 4 && (pieces '.' cs).all isByte

/- Whether a text is one to four hexadecimal digits. -/
def isGroup
    (cs : List Char) : Bool :=
  !cs.isEmpty && cs.length ≤ 4 && cs.all Text.isHexadecimalDigit

/-
  How many groups some texts stand for; a quad at the end
  stands for two, where one may be there.
-/
def countGroups?
    (quad : Bool) : List (List Char) → Option Nat
  | [] => some 0
  | first :: rest =>
      if isGroup first then
        (countGroups? quad rest).map (· + 1)
      else if quad && rest.isEmpty && isQuad first then
        some 2
      else
        none

/- How many groups a text stands for that has no gap. -/
def groups?
    (quad : Bool)
    (cs : List Char) : Option Nat :=
  if cs.isEmpty then
    some 0
  else
    countGroups? quad (pieces ':' cs)

/- Whether a text is eight groups, where a gap may stand for some. -/
def isLiteral
    (cs : List Char) : Bool :=
  match cutAtGap? cs with
  | none => groups? true cs == some 8
  | some (before, tail) =>
      match groups? false before, groups? true tail with
      | some m, some n => decide (m + n < 8)
      | _, _ => false

------------------------------------------------------------
-- Hosts
------------------------------------------------------------

/- The characters that start a path, a query or a fragment. -/
def isDelimiter
    (c : Char) : Bool :=
  c == '/' || c == '?' || c == '#'

/-
  What follows the port that a text starts with, if it may
  start with one.  A path behind a port may lack its slash
  where it starts with a backslash.
-/
def behindPort? : List Char → Option (List Char)
  | [] => some []
  | ':' :: rest =>
      let (digits, rest) := rest.span Char.isDigit
      if Text.ofDecimalDigits digits < 65536 then
        match rest with
        | [] => some []
        | '\\' :: _ => some ('/' :: rest)
        | c :: _ => if isDelimiter c then some rest else none
      else
        none
  | c :: rest => if isDelimiter c then some (c :: rest) else none

/- The characters that cannot stand in the name of a host. -/
def isForbidden
    (c : Char) : Bool :=
  c.toNat = 0 || c ∈ " #/:<>?@[\\]^|".toList

/-
  The host that a text starts with, and what follows it and
  its port.  There may be no host, but then there is no port.
-/
def cut?
    (cs : List Char) : Option (List Char × List Char) :=
  match cs with
  | '[' :: rest =>
      match cutBefore (· == ']') rest with
      | (literal, ']' :: rest) =>
          if isLiteral literal then
            (behindPort? rest).map fun rest => (literal, rest)
          else
            none
      | _ => none
  | _ =>
      let (name, rest) := cutBefore (fun c => c == ':' || isDelimiter c) cs
      if name.any isForbidden || name.isEmpty && rest.head? = some ':' then
        none
      else
        (behindPort? rest).map fun rest => (name, rest)

end Courier.Redis.Host
