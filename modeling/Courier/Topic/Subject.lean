import Courier.Fault
import Courier.Topic.Segments

/-
  This file defines concrete topics, the subjects that
  messages travel under: a root, a channel, and a subtopic
  in normal form, joined by dots.

  Key definitions include:
    * `Topic.build`
    * `Topic.parse`
-/

namespace Courier.Topic

------------------------------------------------------------
-- Roots and channels
------------------------------------------------------------

/- The root of all channel traffic unless configured. -/
def channelsRoot : String :=
  "channels"

/- The characters that a channel name must not hold. -/
def isReserved
    (c : Char) : Bool :=
  c == dot || isWildcard c || Text.isBlank c

------------------------------------------------------------
-- Building
------------------------------------------------------------

/- Put a part behind a dot, or nothing for an empty part. -/
def dotted
    (part : String) : String :=
  if part.isEmpty then "" else "." ++ part

/- Put a root and a dot ahead, or nothing for an empty root. -/
def rooted
    (root : String) : String :=
  if root.isEmpty then "" else root ++ "."

/-
  The concrete topic of a channel and a raw subtopic.  The
  channel has to be a single segment without reserved
  characters.
-/
def build
    (root channel subtopic : String) : Except Fault String :=
  if channel.isEmpty then
    .error .emptyChannel
  else if channel.toList.any isReserved then
    .error (.malformedTopic channel)
  else
    .ok (rooted root ++ channel ++ dotted (normalize subtopic))

------------------------------------------------------------
-- Parsing
------------------------------------------------------------

/- What follows a root and its dot in a topic. -/
def afterRoot?
    (root topic : List Char) : Option (List Char) :=
  if root.isEmpty then
    some topic
  else
    (root ++ [dot]).isPrefixOf? topic

/-
  The part before the first dot and the part after it, which
  is empty when there is no dot.
-/
def splitFirst : List Char → List Char × List Char
  | [] => ([], [])
  | c :: rest =>
      if c = dot then
        ([], rest)
      else
        let (first, others) := splitFirst rest
        (c :: first, others)

/- The channel and the subtopic of a concrete topic. -/
def parse
    (root topic : String) : Except Fault (String × String) :=
  if topic.isEmpty then
    .error .emptyTopic
  else
    match afterRoot? root.toList topic.toList with
    | none => .error (.malformedTopic topic)
    | some rest =>
        let (channel, subtopic) := splitFirst rest
        if channel.isEmpty then
          .error .emptyChannel
        else
          .ok (String.ofList channel, String.ofList subtopic)

end Courier.Topic
