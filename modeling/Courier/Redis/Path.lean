import Courier.Redis.Host

/-
  This file defines the paths in addresses of servers.  A
  segment of one dot stands for the place where it is found,
  and a segment of two dots for the place above it.

  Key definitions include:
    * `Redis.Path.dots?`
    * `Redis.Path.resolve`
    * `Redis.Path.text`
-/

namespace Courier.Redis.Path

open Host (cutBefore pieces)

------------------------------------------------------------
-- Segments
------------------------------------------------------------

/-
  How many dots a segment consists of, if it holds nothing
  else.  A dot may be given by its octet.
-/
def dots? : List Char → Option Nat
  | [] => some 0
  | '.' :: rest => (dots? rest).map (· + 1)
  | '%' :: '2' :: 'e' :: rest => (dots? rest).map (· + 1)
  | '%' :: '2' :: 'E' :: rest => (dots? rest).map (· + 1)
  | _ => none

/- Whether a segment is the letter of a drive. -/
def isDrive : List Char → Bool
  | [letter, mark] => letter.isAlpha && (mark == ':' || mark == '|')
  | _ => false

/-
  The place above another, both given from the last segment
  to the first.  There is none above a drive.
-/
def above : List (List Char) → List (List Char)
  | [] => []
  | last :: before => if isDrive last then last :: before else before

/-
  Go along some segments from a place that is given from the
  last segment to the first.
-/
def walk
    (place : List (List Char)) : List (List Char) → List (List Char)
  | [] => place
  | segment :: rest =>
      match dots? segment with
      | some 1 => walk place rest
      | some 2 => walk (above place) rest
      | _ => walk (segment :: place) rest

/- The segments of the place that some segments lead to. -/
def resolve
    (segments : List (List Char)) : List (List Char) :=
  (walk [] segments).reverse

------------------------------------------------------------
-- Paths
------------------------------------------------------------

/- A text without the slashes at both ends. -/
def withoutSlashes
    (cs : List Char) : List Char :=
  ((cs.dropWhile (· == '/')).reverse.dropWhile (· == '/')).reverse

/-
  The path that a text starts with, up to a query or a
  fragment, resolved and without the slashes at its ends.
-/
def text
    (cs : List Char) : List Char :=
  let path := (cutBefore (fun c => c == '?' || c == '#') cs).1
  withoutSlashes
    (List.intercalate ['/'] (resolve (pieces '/' (path.drop 1))))

end Courier.Redis.Path
