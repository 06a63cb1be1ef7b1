import Courier.Topic.Pattern
import Courier.Topic.Segments

/-
  This file defines the patterns of subscriptions on a NATS
  server, and the patterns under which a client subscribes
  for one pattern of topics.

  Key definitions include:
    * `Nats.accepts`
    * `Nats.patterns`
-/

namespace Courier.Nats

/- The token that stands for any one token. -/
def anyToken : List Char :=
  ['*']

/- The last token of a pattern that stands for all that follow. -/
def allTokens : List Char :=
  ['>']

/- Whether the tokens of a pattern accept those of a subject. -/
def acceptsTokens :
    List (List Char) → List (List Char) → Bool
  | [], subject => subject.isEmpty
  | _ :: _, [] => false
  | token :: pattern, first :: rest =>
      if token = allTokens ∧ pattern = [] then
        true
      else
        (token == anyToken || token == first)
          && acceptsTokens pattern rest

/- Whether a pattern accepts a subject. -/
def accepts
    (pattern subject : String) : Bool :=
  acceptsTokens
    (Topic.segments pattern.toList) (Topic.segments subject.toList)

/-
  The patterns that a client subscribes under for a pattern of
  topics.  One for all topics below another does not accept
  that topic itself, which takes a subscription of its own.
-/
def patterns
    (topic : String) : List String :=
  match Topic.base? topic with
  | some base => [topic, base]
  | none => [topic]

end Courier.Nats
