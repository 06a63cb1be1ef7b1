import Courier.Topic.Segments

/-
  This file defines subscription patterns.  A pattern is a
  topic, or a topic followed by `.>`, which covers the topic
  itself and everything nested below it, or a bare `>`,
  which covers everything.

  Key definitions include:
    * `Topic.base?`
    * `Topic.covers`
    * `Topic.bindingKey`
-/

namespace Courier.Topic

------------------------------------------------------------
-- Patterns
------------------------------------------------------------

/- The pattern that covers every topic. -/
def everything : String :=
  ">"

/- The topic that a pattern ending in `.>` is built on. -/
def baseChars?
    (pattern : List Char) : Option (List Char) :=
  match pattern.reverse with
  | '>' :: '.' :: base => some base.reverse
  | _ => none

/- The topic that a pattern ending in `.>` is built on. -/
def base?
    (pattern : String) : Option String :=
  (baseChars? pattern.toList).map String.ofList

/- Whether a message on a topic belongs to a pattern. -/
def coversChars
    (pattern topic : List Char) : Bool :=
  if pattern = ['>'] then
    !topic.isEmpty
  else
    match baseChars? pattern with
    | some base => topic == base || (base ++ [dot]).isPrefixOf topic
    | none => pattern == topic

/- Whether a message on a topic belongs to a pattern. -/
def covers
    (pattern topic : String) : Bool :=
  coversChars pattern.toList topic.toList

------------------------------------------------------------
-- Binding keys
------------------------------------------------------------

/-
  The pattern as a binding key of a topic exchange, where
  `#` stands for any number of words.
-/
def bindingKey
    (pattern : String) : String :=
  if pattern = everything then
    "#"
  else
    match base? pattern with
    | some base => base ++ ".#"
    | none => pattern

end Courier.Topic
