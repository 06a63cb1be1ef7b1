import Courier.Topic.Pattern
import Courier.Topic.Segments

/-
  This file defines the keys that bind queues to a topic
  exchange on an AMQP server.

  A key is matched word by word, with one answer for each
  ending of the subject, so the work grows with the product
  of both lengths.

  Key definitions include:
    * `Amqp.acceptsWords`
    * `Amqp.acceptedEndings`
    * `Amqp.accepts`

  The main statement says that the answers are those of the
  rule for words.
-/

namespace Courier.Amqp

------------------------------------------------------------
-- The rule
------------------------------------------------------------

/- The word that stands for any one word. -/
def anyWord : List Char :=
  ['*']

/- The word that stands for any number of words. -/
def anyWords : List Char :=
  ['#']

/- What is left of a list after any number of elements. -/
def endings
    {α : Type} : List α → List (List α)
  | [] => [[]]
  | first :: rest => (first :: rest) :: endings rest

/- Whether the words of a key accept those of a subject. -/
def acceptsWords :
    List (List Char) → List (List Char) → Bool
  | [], subject => subject.isEmpty
  | word :: key, subject =>
      if word = anyWords then
        (endings subject).any (acceptsWords key)
      else
        match subject with
        | [] => false
        | first :: rest =>
            (word == anyWord || word == first) && acceptsWords key rest

------------------------------------------------------------
-- Answers for all endings
------------------------------------------------------------

/- Whether an answer, or one behind it, is positive. -/
def anyLater : List Bool → List Bool
  | [] => []
  | b :: later =>
      let later := anyLater later
      (b || later.headD false) :: later

/-
  The answers for a key that starts with a word, from those
  for the rest of the key.
-/
def oneWord
    (word : List Char) : List (List Char) → List Bool → List Bool
  | first :: rest, _ :: later =>
      ((word == anyWord || word == first) && later.headD false)
        :: oneWord word rest later
  | _, _ => [false]

/-
  Whether the words of a key accept each ending of those of a
  subject, the longest first.
-/
def acceptedEndings :
    List (List Char) → List (List Char) → List Bool
  | [], subject => (endings subject).map List.isEmpty
  | word :: key, subject =>
      let later := acceptedEndings key subject
      if word = anyWords then
        anyLater later
      else
        oneWord word subject later

/- The longest ending is the list itself. -/
theorem head_map_endings
    {α β : Type}
    (f : List α → β)
    (d : β)
    (as : List α) :
    ((endings as).map f).headD d = f as := by
  cases as <;> rfl

/- Positive answers are kept for all longer endings. -/
theorem anyLater_map_endings
    {α : Type}
    (f : List α → Bool)
    (as : List α) :
    anyLater ((endings as).map f)
      = (endings as).map fun ending => (endings ending).any f := by
  induction as with
  | nil => simp [endings, anyLater]
  | cons a rest ih =>
      have head := head_map_endings
        (fun ending => (endings ending).any f) false rest
      simp only [endings, List.map_cons, anyLater, ih, head, List.any_cons]

/- A word takes the first word off an ending. -/
theorem oneWord_map_endings
    (word : List Char)
    (key subject : List (List Char))
    (h : word ≠ anyWords) :
    oneWord word subject ((endings subject).map (acceptsWords key))
      = (endings subject).map (acceptsWords (word :: key)) := by
  induction subject with
  | nil => simp [endings, oneWord, acceptsWords, h]
  | cons first rest ih =>
      have head := head_map_endings (acceptsWords key) false rest
      simp only [endings, List.map_cons, oneWord, ih, head]
      simp [acceptsWords, h]

/- The answers for all endings are those of the rule. -/
theorem acceptedEndings_eq
    (key subject : List (List Char)) :
    acceptedEndings key subject
      = (endings subject).map (acceptsWords key) := by
  induction key with
  | nil =>
      rw [acceptedEndings]
      exact List.map_congr_left fun ending _ => by simp [acceptsWords]
  | cons word key ih =>
      by_cases h : word = anyWords
      · simp only [acceptedEndings, ih, h, if_true, anyLater_map_endings]
        exact List.map_congr_left fun ending _ => by simp [acceptsWords]
      · simp only [acceptedEndings, ih, h, if_false]
        exact oneWord_map_endings word key subject h

------------------------------------------------------------
-- Keys
------------------------------------------------------------

/- Whether a key accepts a subject. -/
def accepts
    (key subject : String) : Bool :=
  (acceptedEndings (Topic.segments key.toList)
    (Topic.segments subject.toList)).headD false

/- A key accepts a subject by the rule for their words. -/
theorem accepts_eq
    (key subject : String) :
    accepts key subject
      = acceptsWords (Topic.segments key.toList)
          (Topic.segments subject.toList) := by
  rw [accepts, acceptedEndings_eq, head_map_endings]

end Courier.Amqp
