import Courier.Proofs.Topic.Words

/-
  Laws of the normal form of subtopics.  A raw subtopic comes
  down to clean segments, those that are left when wildcards
  are dropped and every separator cuts.  Joining them gives the
  normal form, and clean segments that are joined come back as
  they are.

  Key definitions include:
    * `Topic.IsClean`
    * `Topic.kept`
    * `Topic.parts`

  Main statements:
    * `Topic.isClean_of_mem_kept`
    * `Topic.kept_join`
    * `Topic.normalize_normalize`
    * `Topic.parts_normalize`
-/

namespace Courier.Topic

------------------------------------------------------------
-- Clean segments
------------------------------------------------------------

/- A segment that a subtopic in normal form may have. -/
def IsClean
    (segment : List Char) : Prop :=
  segment ≠ [] ∧
    ∀ c ∈ segment, isWildcard c = false ∧ isSeparator c = false

/- The segments that a raw subtopic comes down to. -/
def kept
    (raw : List Char) : List (List Char) :=
  (segments
    ((raw.filter fun c => !isWildcard c).map fun c =>
      if isSeparator c then dot else c)).filter
    fun segment => !segment.isEmpty

/- The normal form joins them. -/
theorem normalizeChars_eq
    (raw : List Char) :
    normalizeChars raw = join (kept raw) :=
  rfl

/- They are clean. -/
theorem isClean_of_mem_kept
    {raw segment : List Char}
    (hSegment : segment ∈ kept raw) :
    IsClean segment := by
  rcases List.mem_filter.mp hSegment with ⟨hCut, hSome⟩
  refine ⟨by simpa using hSome, ?_⟩
  intro c hMember
  rcases List.mem_map.mp (mem_of_mem_segments hCut hMember) with
    ⟨d, hRaw, hMapped⟩
  have hNoDot : c ≠ dot := by
    rintro rfl
    exact dot_not_mem_segments hCut hMember
  have hWildcard : isWildcard d = false := by
    simpa using (List.mem_filter.mp hRaw).2
  by_cases hSeparator : isSeparator d = true
  · rw [if_pos hSeparator] at hMapped
    exact absurd hMapped.symm hNoDot
  · rw [if_neg hSeparator] at hMapped
    subst hMapped
    exact ⟨hWildcard, by simpa using hSeparator⟩

/- A clean segment holds no dot. -/
theorem IsClean.dot_not_mem
    {segment : List Char}
    (hClean : IsClean segment) :
    dot ∉ segment := by
  intro hMember
  exact absurd (hClean.2 dot hMember).2 (by decide)

/- What is joined consists of segments and dots. -/
theorem mem_join
    {xs : List (List Char)}
    {c : Char}
    (hMember : c ∈ join xs) :
    c = dot ∨ ∃ x ∈ xs, c ∈ x := by
  induction xs with
  | nil => exact absurd hMember List.not_mem_nil
  | cons first rest ih =>
      cases rest with
      | nil => exact Or.inr ⟨first, List.mem_cons_self, hMember⟩
      | cons second others =>
          rcases List.mem_append.mp hMember with hFirst | hRest
          · exact Or.inr ⟨first, List.mem_cons_self, hFirst⟩
          · rcases List.mem_cons.mp hRest with rfl | hRest
            · exact Or.inl rfl
            · rcases ih hRest with hDot | ⟨x, hIn, hHas⟩
              · exact Or.inl hDot
              · exact Or.inr ⟨x, List.mem_cons_of_mem _ hIn, hHas⟩

/- Clean segments and the dots between them are taken as they are. -/
theorem map_filter_join
    {xs : List (List Char)}
    (hClean : ∀ x ∈ xs, IsClean x) :
    (((join xs).filter fun c => !isWildcard c).map fun c =>
        if isSeparator c then dot else c) =
      join xs := by
  have hFiltered :
      (join xs).filter (fun c => !isWildcard c) = join xs := by
    rw [List.filter_eq_self]
    intro c hMember
    rcases mem_join hMember with rfl | ⟨x, hIn, hHas⟩
    · decide
    · simp [((hClean x hIn).2 c hHas).1]
  rw [hFiltered]
  conv_rhs => rw [← List.map_id (join xs)]
  apply List.map_congr_left
  intro c hMember
  rcases mem_join hMember with rfl | ⟨x, hIn, hHas⟩
  · decide
  · simp [((hClean x hIn).2 c hHas).2]

/- Clean segments that are joined are kept. -/
theorem kept_join
    {xs : List (List Char)}
    (hClean : ∀ x ∈ xs, IsClean x) :
    kept (join xs) = xs := by
  rw [kept, map_filter_join hClean]
  by_cases hNone : xs = []
  · rw [hNone]
    rfl
  · rw [segments_join hNone fun x hIn => (hClean x hIn).dot_not_mem,
      List.filter_eq_self]
    intro x hIn
    simpa using (hClean x hIn).1

/- The normal form of a subtopic is in normal form. -/
theorem normalize_normalize
    (raw : String) :
    normalize (normalize raw) = normalize raw := by
  unfold normalize
  rw [String.toList_ofList, normalizeChars_eq raw.toList,
    normalizeChars_eq, kept_join fun _ => isClean_of_mem_kept]

------------------------------------------------------------
-- Parts
------------------------------------------------------------

/- The segments of a text, of which the empty one has none. -/
def parts
    (text : String) : List (List Char) :=
  if text.isEmpty then [] else segments text.toList

/- The empty text has no parts. -/
theorem parts_empty :
    parts "" = [] :=
  rfl

/- All other texts have their segments as parts. -/
theorem parts_of_ne_empty
    {text : String}
    (hSome : text ≠ "") :
    parts text = segments text.toList := by
  rw [parts, if_neg (by simpa using hSome)]

/- Texts with the same parts are the same. -/
theorem parts_injective :
    Function.Injective parts := by
  intro text other hSame
  by_cases hText : text = ""
  · by_cases hOther : other = ""
    · rw [hText, hOther]
    · rw [hText, parts_empty, parts_of_ne_empty hOther] at hSame
      exact absurd hSame.symm (segments_ne_nil _)
  · by_cases hOther : other = ""
    · rw [hOther, parts_empty, parts_of_ne_empty hText] at hSame
      exact absurd hSame (segments_ne_nil _)
    · rw [parts_of_ne_empty hText, parts_of_ne_empty hOther] at hSame
      exact String.toList_inj.mp (segments_injective hSame)

/- The parts of a normal form are what is kept of the subtopic. -/
theorem parts_normalize
    (raw : String) :
    parts (normalize raw) = kept raw.toList := by
  have hClean : ∀ x ∈ kept raw.toList, IsClean x :=
    fun _ => isClean_of_mem_kept
  have hNormal : (normalize raw).toList = join (kept raw.toList) := by
    rw [normalize, String.toList_ofList, normalizeChars_eq]
  by_cases hNone : normalize raw = ""
  · rw [hNone] at hNormal
    rw [hNone, parts_empty, ← kept_join hClean, ← hNormal]
    rfl
  · have hKept : kept raw.toList ≠ [] := by
      intro hNil
      rw [hNil] at hNormal
      exact hNone (String.toList_inj.mp hNormal)
    rw [parts_of_ne_empty hNone, hNormal,
      segments_join hKept fun x hIn => (hClean x hIn).dot_not_mem]

end Courier.Topic
