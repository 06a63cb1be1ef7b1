import Courier.Text.Blank

/-
  This file defines the segments of a topic and the normal
  form of a subtopic: nonempty segments joined by dots, with
  no wildcard and no separator left inside.

  Key definitions include:
    * `Topic.segments`
    * `Topic.join`
    * `Topic.normalize`
-/

namespace Courier.Topic

------------------------------------------------------------
-- Segments
------------------------------------------------------------

/- The character between two segments of a topic. -/
def dot : Char :=
  '.'

/-
  The segments of a text, cut at every dot.  A text without
  dots has one segment, so the list is never empty.
-/
def segments : List Char → List (List Char)
  | [] => [[]]
  | c :: rest =>
      if c = dot then
        [] :: segments rest
      else
        match segments rest with
        | [] => [[c]]
        | first :: others => (c :: first) :: others

/- Put a dot between each two segments. -/
def join : List (List Char) → List Char
  | [] => []
  | [last] => last
  | first :: second :: others =>
      first ++ dot :: join (second :: others)

/- Every text has at least one segment. -/
theorem segments_ne_nil
    (cs : List Char) :
    segments cs ≠ [] := by
  cases cs with
  | nil => simp [segments]
  | cons c rest =>
      by_cases hc : c = dot
      · simp [segments, hc]
      · cases hs : segments rest <;> simp [segments, hc, hs]

/- Joining the segments of a text gives the text back. -/
theorem join_segments
    (cs : List Char) :
    join (segments cs) = cs := by
  induction cs with
  | nil => rfl
  | cons c rest ih =>
      obtain ⟨first, others, hs⟩ :=
        List.exists_cons_of_ne_nil (segments_ne_nil rest)
      rw [hs] at ih
      by_cases hc : c = dot
      · simp [segments, hc, hs, join, ih]
      · cases others with
        | nil =>
            simp only [join] at ih
            simp [segments, hc, hs, join, ih]
        | cons second others =>
            simp only [join] at ih
            simp [segments, hc, hs, join, ih]

------------------------------------------------------------
-- Normal form
------------------------------------------------------------

/- The characters that stand for wildcards in a pattern. -/
def isWildcard
    (c : Char) : Bool :=
  c == '*' || c == '>'

/- The characters that separate segments in a raw subtopic. -/
def isSeparator
    (c : Char) : Bool :=
  c == '/' || c == dot || Text.isBlank c

/-
  A raw subtopic in normal form: wildcards are dropped, every
  separator counts as a dot, and empty segments vanish.
-/
def normalizeChars
    (raw : List Char) : List Char :=
  join
    ((segments
      ((raw.filter fun c => !isWildcard c).map fun c =>
        if isSeparator c then dot else c)).filter
      fun segment => !segment.isEmpty)

/- The normal form of a raw subtopic; it may be empty. -/
def normalize
    (raw : String) : String :=
  String.ofList (normalizeChars raw.toList)

end Courier.Topic
