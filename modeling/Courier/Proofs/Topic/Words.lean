import Courier.Topic.Pattern
import Mathlib.Data.List.Basic

/-
  Laws of topics and patterns, seen through their segments.

  What a pattern covers is a matter of segments alone: a topic
  covers itself, and a pattern `base.>` covers all topics that
  start with the segments of its base.

  Key definitions include:
    * `Topic.IsPlain`
    * `Topic.IsSubject`
    * `Topic.IsPattern`

  Main statements:
    * `Topic.segments_append`, `Topic.segments_join`
    * `Topic.IsPattern.cases`
    * `Topic.coversChars_wildcard_iff`, `Topic.coversChars_below_iff`,
      `Topic.coversChars_plain_iff`
-/

namespace Courier.Topic

------------------------------------------------------------
-- Cutting and joining
------------------------------------------------------------

/- A dot between two texts separates their segments. -/
theorem segments_append
    (cs ds : List Char) :
    segments (cs ++ dot :: ds) = segments cs ++ segments ds := by
  induction cs with
  | nil => simp [segments]
  | cons c rest ih =>
      by_cases hDot : c = dot
      · simp [segments, hDot, ih]
      · rcases List.exists_cons_of_ne_nil (segments_ne_nil rest) with
          ⟨first, others, hRest⟩
        rw [hRest] at ih
        simp [segments, hDot, ih, hRest]

/- A text without dots is its own segment. -/
theorem segments_of_no_dot
    {cs : List Char}
    (hNoDot : dot ∉ cs) :
    segments cs = [cs] := by
  induction cs with
  | nil => rfl
  | cons c rest ih =>
      rcases List.ne_and_not_mem_of_not_mem_cons hNoDot with
        ⟨hHead, hRest⟩
      simp [segments, Ne.symm hHead, ih hRest]

/- The characters of a segment are characters of the text. -/
theorem mem_of_mem_segments
    {c : Char}
    {cs segment : List Char}
    (hSegment : segment ∈ segments cs)
    (hMember : c ∈ segment) :
    c ∈ cs := by
  induction cs generalizing segment with
  | nil =>
      rw [List.mem_singleton.mp hSegment] at hMember
      exact hMember
  | cons d rest ih =>
      by_cases hDot : d = dot
      · simp only [segments, hDot, if_true, List.mem_cons] at hSegment
        rcases hSegment with rfl | hSegment
        · exact absurd hMember List.not_mem_nil
        · exact List.mem_cons_of_mem d (ih hSegment hMember)
      · rcases List.exists_cons_of_ne_nil (segments_ne_nil rest) with
          ⟨first, others, hRest⟩
        simp only [segments, hDot, if_false, hRest, List.mem_cons]
          at hSegment
        rw [hRest] at ih
        rcases hSegment with rfl | hSegment
        · rcases List.mem_cons.mp hMember with rfl | hMember
          · exact List.mem_cons_self
          · exact List.mem_cons_of_mem d (ih List.mem_cons_self hMember)
        · exact List.mem_cons_of_mem d
            (ih (List.mem_cons_of_mem first hSegment) hMember)

/- No segment holds a dot. -/
theorem dot_not_mem_segments
    {cs segment : List Char}
    (hSegment : segment ∈ segments cs) :
    dot ∉ segment := by
  induction cs generalizing segment with
  | nil =>
      rw [List.mem_singleton.mp hSegment]
      exact List.not_mem_nil
  | cons d rest ih =>
      by_cases hDot : d = dot
      · simp only [segments, hDot, if_true, List.mem_cons] at hSegment
        rcases hSegment with rfl | hSegment
        · exact List.not_mem_nil
        · exact ih hSegment
      · rcases List.exists_cons_of_ne_nil (segments_ne_nil rest) with
          ⟨first, others, hRest⟩
        simp only [segments, hDot, if_false, hRest, List.mem_cons]
          at hSegment
        rw [hRest] at ih
        rcases hSegment with rfl | hSegment
        · intro hMember
          rcases List.mem_cons.mp hMember with hHead | hMember
          · exact hDot hHead.symm
          · exact ih List.mem_cons_self hMember
        · exact ih (List.mem_cons_of_mem first hSegment)

/- Cutting gives the segments back that were joined. -/
theorem segments_join
    {xs : List (List Char)}
    (hSome : xs ≠ [])
    (hNoDot : ∀ x ∈ xs, dot ∉ x) :
    segments (join xs) = xs := by
  induction xs with
  | nil => exact absurd rfl hSome
  | cons first rest ih =>
      have hFirst := segments_of_no_dot (hNoDot first List.mem_cons_self)
      cases rest with
      | nil => exact hFirst
      | cons second others =>
          have hRest :=
            ih (List.cons_ne_nil second others)
              fun x hx => hNoDot x (List.mem_cons_of_mem first hx)
          rw [join, segments_append, hFirst, hRest]
          rfl

/- Texts with the same segments are the same. -/
theorem segments_injective :
    Function.Injective segments :=
  Function.LeftInverse.injective join_segments

/- Two lists of segments are joined by a dot. -/
theorem join_append
    {xs ys : List (List Char)}
    (hLeft : xs ≠ [])
    (hRight : ys ≠ []) :
    join (xs ++ ys) = join xs ++ dot :: join ys := by
  induction xs with
  | nil => exact absurd rfl hLeft
  | cons first rest ih =>
      cases rest with
      | nil =>
          rcases List.exists_cons_of_ne_nil hRight with
            ⟨next, others, rfl⟩
          rfl
      | cons second others =>
          have hRest := ih (List.cons_ne_nil second others)
          simp only [List.cons_append] at hRest
          simp only [List.cons_append, join, hRest, List.append_assoc]

------------------------------------------------------------
-- Topics and patterns
------------------------------------------------------------

/- The segment of a pattern that stands for all that follow. -/
def wildcard : List Char :=
  ['>']

/- A segment that stands for itself: it holds no wildcard. -/
def IsPlain
    (segment : List Char) : Prop :=
  segment ≠ [] ∧ ∀ c ∈ segment, isWildcard c = false

instance
    (segment : List Char) :
    Decidable (IsPlain segment) :=
  @instDecidableAnd (segment ≠ []) _ inferInstance
    (List.decidableBAll (fun c => isWildcard c = false) segment)

/- A subject that messages travel under has no empty segments. -/
def IsSubject
    (topic : String) : Prop :=
  ∀ segment ∈ segments topic.toList, segment ≠ []

instance
    (topic : String) :
    Decidable (IsSubject topic) :=
  List.decidableBAll (fun segment => segment ≠ []) _

/- A subject is not empty. -/
theorem IsSubject.toList_ne_nil
    {topic : String}
    (hSubject : IsSubject topic) :
    topic.toList ≠ [] := by
  intro hNone
  have hEmpty := hSubject []
  rw [hNone] at hEmpty
  exact hEmpty List.mem_cons_self rfl

/-
  The segments of a well-formed pattern are plain, but for the
  last or only one, which may be the wildcard.
-/
def IsPattern
    (pattern : String) : Prop :=
  (∀ segment ∈ (segments pattern.toList).dropLast, IsPlain segment) ∧
    ∀ segment ∈ (segments pattern.toList).getLast?,
      IsPlain segment ∨ segment = wildcard

instance
    (pattern : String) :
    Decidable (IsPattern pattern) :=
  @instDecidableAnd _ _
    (List.decidableBAll IsPlain _)
    (@Option.decidableForallMem _
      (fun segment => IsPlain segment ∨ segment = wildcard)
      (fun _ => inferInstance) _)

/- A plain segment is not the wildcard. -/
theorem IsPlain.ne_wildcard
    {segment : List Char}
    (hPlain : IsPlain segment) :
    segment ≠ wildcard := by
  rintro rfl
  exact absurd (hPlain.2 '>' List.mem_cons_self) (by decide)

/-
  A pattern is the wildcard, or all that is below some base, or
  a topic of plain segments.
-/
theorem IsPattern.cases
    {pattern : String}
    (hPattern : IsPattern pattern) :
    pattern.toList = wildcard ∨
      (∃ base,
        pattern.toList = base ++ dot :: wildcard ∧
        ∀ segment ∈ segments base, IsPlain segment) ∨
      ∀ segment ∈ segments pattern.toList, IsPlain segment := by
  rcases hPattern with ⟨hLeading, hLast⟩
  have hNonempty := segments_ne_nil pattern.toList
  have hSplit := List.dropLast_append_getLast hNonempty
  have hText := join_segments pattern.toList
  generalize (segments pattern.toList).getLast hNonempty = last at *
  generalize (segments pattern.toList).dropLast = leading at *
  rw [← hSplit] at hLast hText
  rw [List.getLast?_concat] at hLast
  rcases hLast last rfl with hPlain | rfl
  · refine Or.inr (Or.inr ?_)
    intro segment hSegment
    rw [← hSplit] at hSegment
    rcases List.mem_append.mp hSegment with hMember | hMember
    · exact hLeading segment hMember
    · rw [List.mem_singleton.mp hMember]
      exact hPlain
  · by_cases hNone : leading = []
    · rw [hNone] at hText
      exact Or.inl hText.symm
    · rw [join_append hNone (List.cons_ne_nil _ _)] at hText
      refine Or.inr (Or.inl ⟨join leading, hText.symm, ?_⟩)
      have hBase : segments (join leading) = leading := by
        have hAll := segments_append (join leading) wildcard
        change segments (join leading ++ dot :: join [wildcard]) = _ at hAll
        rw [hText, ← hSplit] at hAll
        exact (List.append_cancel_right hAll).symm
      rw [hBase]
      exact hLeading

------------------------------------------------------------
-- Bases
------------------------------------------------------------

/- A pattern has a base if it is that base with `.>` behind it. -/
theorem baseChars?_eq_some_iff
    {pattern base : List Char} :
    baseChars? pattern = some base ↔ pattern = base ++ dot :: wildcard := by
  constructor
  · intro hBase
    unfold baseChars? at hBase
    split at hBase
    · rename_i rest hReverse
      cases hBase
      have hPattern := congrArg List.reverse hReverse
      simpa [dot, wildcard] using hPattern
    · exact absurd hBase (by simp)
  · rintro rfl
    simp [baseChars?, dot, wildcard]

/- A topic of plain segments has no base. -/
theorem baseChars?_eq_none
    {pattern : List Char}
    (hPlain : ∀ segment ∈ segments pattern, IsPlain segment) :
    baseChars? pattern = none := by
  rw [Option.eq_none_iff_forall_ne_some]
  intro base hBase
  rw [baseChars?_eq_some_iff] at hBase
  have hLast : wildcard ∈ segments pattern := by
    rw [hBase, segments_append]
    exact List.mem_append_right _ List.mem_cons_self
  exact (hPlain wildcard hLast).ne_wildcard rfl

------------------------------------------------------------
-- What patterns cover
------------------------------------------------------------

/- The wildcard covers every topic but the empty one. -/
theorem coversChars_wildcard_iff
    (topic : List Char) :
    coversChars wildcard topic = true ↔ topic ≠ [] := by
  simp [coversChars, wildcard]

/- What is below some base is more than the wildcard. -/
theorem below_ne_wildcard
    (base : List Char) :
    base ++ dot :: wildcard ≠ wildcard := by
  intro hSame
  have hLength := congrArg List.length hSame
  simp [wildcard] at hLength

/- So is a topic of plain segments. -/
theorem ne_wildcard_of_plain
    {pattern : List Char}
    (hPlain : ∀ segment ∈ segments pattern, IsPlain segment) :
    pattern ≠ wildcard := by
  rintro rfl
  exact (hPlain wildcard List.mem_cons_self).ne_wildcard rfl

/-
  A pattern covers all topics that start with the segments of
  its base, the base included.
-/
theorem coversChars_below_iff
    (base topic : List Char) :
    coversChars (base ++ dot :: wildcard) topic = true ↔
      segments base <+: segments topic := by
  have hBase := baseChars?_eq_some_iff.mpr (Eq.refl (base ++ dot :: wildcard))
  have hMore : base ++ dot :: wildcard ≠ ['>'] := below_ne_wildcard base
  simp only [coversChars, if_neg hMore, hBase, Bool.or_eq_true,
    beq_iff_eq, List.isPrefixOf_iff_prefix]
  constructor
  · rintro (rfl | ⟨rest, rfl⟩)
    · exact List.prefix_refl _
    · rw [List.append_assoc]
      change segments base <+: segments (base ++ dot :: rest)
      rw [segments_append]
      exact List.prefix_append _ _
  · rintro ⟨more, hTopic⟩
    have hJoined := join_segments topic
    rw [← hTopic] at hJoined
    by_cases hNone : more = []
    · rw [hNone, List.append_nil, join_segments] at hJoined
      exact Or.inl hJoined.symm
    · rw [join_append (segments_ne_nil base) hNone, join_segments]
        at hJoined
      refine Or.inr ⟨join more, ?_⟩
      rw [List.append_assoc]
      exact hJoined

/- A pattern without a base covers itself, unless it is the wildcard. -/
theorem coversChars_self_iff
    {pattern : List Char}
    (hBase : baseChars? pattern = none)
    (hMore : pattern ≠ wildcard)
    (topic : List Char) :
    coversChars pattern topic = true ↔ segments pattern = segments topic := by
  have hText : pattern ≠ ['>'] := hMore
  simp [coversChars, hText, hBase, segments_injective.eq_iff]

/- A topic of plain segments covers itself. -/
theorem coversChars_plain_iff
    {pattern : List Char}
    (hPlain : ∀ segment ∈ segments pattern, IsPlain segment)
    (topic : List Char) :
    coversChars pattern topic = true ↔ segments pattern = segments topic :=
  coversChars_self_iff (baseChars?_eq_none hPlain)
    (ne_wildcard_of_plain hPlain) topic

end Courier.Topic
