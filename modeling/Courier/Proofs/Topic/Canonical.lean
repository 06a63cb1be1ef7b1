import Courier.Proofs.Topic.Normal

/-
  Which texts are in normal form, and how the normal form of a
  raw subtopic comes about from its characters.

  The texts in normal form are those that normalizing leaves as
  they are.  Separators cut a subtopic into parts that are
  normalized on their own, wildcards may stand anywhere without
  a difference, and all other characters stay, in order.

  Key definitions include:
    * `Topic.IsCanonical`
    * `Topic.stays`

  Main statements:
    * `Topic.isCanonical_iff_parts`
    * `Topic.normalize_eq_self_iff`
    * `Topic.normalize_separated`
    * `Topic.filter_normalize`
    * `Topic.normalized_subtopics`
-/

namespace Courier.Topic

------------------------------------------------------------
-- Canonical texts
------------------------------------------------------------

/-
  A canonical text is empty, or it is nonempty segments with
  dots between them, and neither a wildcard nor another
  separator is among its characters.
-/
def IsCanonical
    (text : String) : Prop :=
  text = "" ∨
    (∀ segment ∈ segments text.toList, segment ≠ []) ∧
      ∀ c ∈ text.toList,
        c ≠ '*' ∧ c ≠ '>' ∧ c ≠ '/' ∧ Text.isBlank c = false

/- A character that is neither a wildcard nor a separator. -/
def stays
    (c : Char) : Bool :=
  c != '*' && c != '>' && c != '.' && c != '/' && !Text.isBlank c

/- Clean segments are made of characters that stay. -/
theorem stays_eq
    (c : Char) :
    stays c = (!isWildcard c && !isSeparator c) := by
  simp only [stays, isWildcard, isSeparator, dot, bne, Bool.not_or]
  ac_rfl

/- The parts of a text are joined by dots. -/
theorem join_parts
    (text : String) :
    join (parts text) = text.toList := by
  by_cases hNone : text = ""
  · rw [hNone]
    rfl
  · rw [parts_of_ne_empty hNone, join_segments]

/- A text is canonical if its parts are clean. -/
theorem isCanonical_iff_parts
    {text : String} :
    IsCanonical text ↔ ∀ part ∈ parts text, IsClean part := by
  by_cases hNone : text = ""
  · rw [hNone, parts_empty]
    exact iff_of_true (Or.inl rfl) fun _ hPart =>
      absurd hPart List.not_mem_nil
  · rw [parts_of_ne_empty hNone]
    constructor
    · rintro (hEmpty | ⟨hSome, hPlain⟩)
      · exact absurd hEmpty hNone
      · intro part hPart
        refine ⟨hSome part hPart, ?_⟩
        intro c hMember
        have hNoDot : c ≠ dot := by
          rintro rfl
          exact dot_not_mem_segments hPart hMember
        have hChar := hPlain c (mem_of_mem_segments hPart hMember)
        simp [isWildcard, isSeparator, hChar, hNoDot]
    · intro hClean
      refine Or.inr ⟨fun part hPart => (hClean part hPart).1, ?_⟩
      intro c hMember
      rw [← join_segments text.toList] at hMember
      rcases mem_join hMember with rfl | ⟨part, hPart, hHas⟩
      · decide
      · have hChar := (hClean part hPart).2 c hHas
        simp only [isWildcard, isSeparator, Bool.or_eq_false_iff,
          beq_eq_false_iff_ne] at hChar
        exact ⟨hChar.1.1, hChar.1.2, hChar.2.1.1, hChar.2.2⟩

/- What is normalized is canonical. -/
theorem isCanonical_normalize
    (raw : String) :
    IsCanonical (normalize raw) := by
  rw [isCanonical_iff_parts, parts_normalize]
  exact fun _ => isClean_of_mem_kept

/- Normalizing leaves the canonical texts as they are, and no others. -/
theorem normalize_eq_self_iff
    {text : String} :
    normalize text = text ↔ IsCanonical text := by
  constructor
  · intro hSame
    exact hSame ▸ isCanonical_normalize text
  · intro hCanonical
    apply parts_injective
    rw [parts_normalize, ← join_parts text,
      kept_join (isCanonical_iff_parts.mp hCanonical)]

------------------------------------------------------------
-- Separators
------------------------------------------------------------

/- A separator is no wildcard. -/
theorem not_isWildcard_of_isSeparator
    {c : Char}
    (hSeparator : isSeparator c = true) :
    isWildcard c = false := by
  by_contra hWildcard
  simp only [isWildcard, Bool.not_eq_false, Bool.or_eq_true,
    beq_iff_eq] at hWildcard
  rcases hWildcard with rfl | rfl <;> exact absurd hSeparator (by decide)

/- A separator cuts what is kept. -/
theorem kept_append_separator
    {c : Char}
    (hSeparator : isSeparator c = true)
    (before behind : List Char) :
    kept (before ++ c :: behind) = kept before ++ kept behind := by
  have hPlain := not_isWildcard_of_isSeparator hSeparator
  simp only [kept, List.filter_append, List.filter_cons, hPlain,
    Bool.not_false, if_true, List.map_append, List.map_cons, hSeparator,
    segments_append]

/- A normal form is empty if nothing is kept. -/
theorem normalize_eq_empty_iff
    {raw : String} :
    normalize raw = "" ↔ kept raw.toList = [] := by
  rw [← parts_normalize]
  constructor
  · intro hNone
    rw [hNone, parts_empty]
  · intro hNone
    exact parts_injective hNone

/-
  Around a separator a subtopic is normalized part by part, and
  a dot stands between the parts of which something is left.
-/
theorem normalize_separated
    {c : Char}
    (hSeparator : isSeparator c = true)
    (before behind : String) :
    normalize (before ++ String.singleton c ++ behind) =
      ".".intercalate
        ([normalize before, normalize behind].filter (· ≠ "")) := by
  have hKept :
      kept (before ++ String.singleton c ++ behind).toList =
        kept before.toList ++ kept behind.toList := by
    rw [← kept_append_separator hSeparator]
    simp
  have hNormal : ∀ raw, (normalize raw).toList = join (kept raw.toList) := by
    intro raw
    rw [normalize, String.toList_ofList, normalizeChars_eq]
  apply String.toList_inj.mp
  rw [hNormal, hKept]
  -- A dot is put in only if there is something on both sides of it.
  by_cases hBefore : normalize before = ""
  · rw [normalize_eq_empty_iff.mp hBefore, List.nil_append, ← hNormal]
    by_cases hBehind : normalize behind = ""
    · simp [hBefore, hBehind]
    · simp [hBefore, hBehind]
  · by_cases hBehind : normalize behind = ""
    · rw [normalize_eq_empty_iff.mp hBehind, List.append_nil, ← hNormal]
      simp [hBefore, hBehind]
    · rw [join_append (mt normalize_eq_empty_iff.mpr hBefore)
        (mt normalize_eq_empty_iff.mpr hBehind), ← hNormal, ← hNormal]
      simp [hBefore, hBehind, dot]

------------------------------------------------------------
-- Wildcards and other characters
------------------------------------------------------------

/- Wildcards make no difference, wherever they stand. -/
theorem normalize_insert_wildcards
    {wildcards : String}
    (hWildcards : ∀ c ∈ wildcards.toList, isWildcard c = true)
    (before behind : String) :
    normalize (before ++ wildcards ++ behind) =
      normalize (before ++ behind) := by
  have hDropped :
      wildcards.toList.filter (fun c => !isWildcard c) = [] := by
    rw [List.filter_eq_nil_iff]
    intro c hMember
    simp [hWildcards c hMember]
  simp only [normalize, normalizeChars, String.toList_append,
    List.filter_append, hDropped, List.append_nil]

/- The segments of a text are the text without its dots. -/
theorem flatten_segments
    (cs : List Char) :
    (segments cs).flatten = cs.filter (· ≠ dot) := by
  induction cs with
  | nil => rfl
  | cons c rest ih =>
      by_cases hDot : c = dot
      · simp [segments, hDot, ih]
      · rcases List.exists_cons_of_ne_nil (segments_ne_nil rest) with
          ⟨first, others, hRest⟩
        rw [hRest, List.flatten_cons] at ih
        simp [segments, hDot, hRest, ih]

/- What is kept are the characters that stay. -/
theorem flatten_kept
    (raw : List Char) :
    (kept raw).flatten = raw.filter stays := by
  rw [kept, List.flatten_filter_not_isEmpty, flatten_segments]
  induction raw with
  | nil => rfl
  | cons c rest ih =>
      cases hWildcard : isWildcard c with
      | true => simpa [stays_eq, hWildcard] using ih
      | false =>
          cases hSeparator : isSeparator c with
          | true => simpa [stays_eq, hWildcard, hSeparator] using ih
          | false =>
              have hNoDot : c ≠ dot := by
                rintro rfl
                exact absurd hSeparator (by decide)
              simpa [stays_eq, hWildcard, hSeparator, hNoDot] using ih

/-
  But for its dots, a normal form is made of the characters
  that stay, each in its place.
-/
theorem filter_normalize
    (raw : String) :
    (normalize raw).toList.filter (· ≠ dot) =
      raw.toList.filter stays := by
  rw [← flatten_kept, ← parts_normalize, ← flatten_segments]
  by_cases hNone : normalize raw = ""
  · rw [hNone]
    rfl
  · rw [parts_of_ne_empty hNone]

------------------------------------------------------------
-- Subtopics
------------------------------------------------------------

/-
  Of all raw subtopics:
    * the normal form is canonical;
    * the canonical texts are those that are left as they are;
    * around a separator, the normal forms of both parts are
      joined by a dot, but for those that are empty;
    * wildcards may be put in anywhere without a difference;
    * the characters that are neither wildcards nor separators
      are, in order, those of the normal form without its dots.
-/
theorem normalized_subtopics :
    (∀ raw, IsCanonical (normalize raw)) ∧
    (∀ text, normalize text = text ↔ IsCanonical text) ∧
    (∀ before c behind,
      c = '.' ∨ c = '/' ∨ Text.isBlank c = true →
        normalize (before ++ String.singleton c ++ behind) =
          ".".intercalate
            ([normalize before, normalize behind].filter (· ≠ ""))) ∧
    (∀ before wildcards behind,
      (∀ c ∈ wildcards.toList, c = '*' ∨ c = '>') →
        normalize (before ++ wildcards ++ behind) =
          normalize (before ++ behind)) ∧
    (∀ raw,
      (normalize raw).toList.filter (· ≠ '.') =
        raw.toList.filter stays) := by
  refine ⟨isCanonical_normalize, fun _ => normalize_eq_self_iff, ?_, ?_,
    filter_normalize⟩
  · intro before c behind hSeparator
    apply normalize_separated
    rcases hSeparator with rfl | rfl | hBlank
    · rfl
    · rfl
    · simp [isSeparator, hBlank]
  · intro before wildcards behind hWildcards
    apply normalize_insert_wildcards
    intro c hMember
    rcases hWildcards c hMember with rfl | rfl <;> rfl

/-
  An ideographic space separates as well, a part of wildcards
  alone leaves no dot behind, and a segment that a wildcard
  stands in is not torn.
-/
theorem spaced_subtopic_normalized :
    Text.isBlank '\u3000' = true ∧
      normalize ("/lab>" ++ String.singleton '\u3000' ++ "en*gine.*") =
        "lab.engine" ∧
      normalize ("lab" ++ String.singleton '\u3000' ++ ">/*") = "lab" ∧
      (∀ c ∈ "*>".toList, c = '*' ∨ c = '>') ∧
      normalize ("en" ++ "*>" ++ "gine") = "engine" ∧
      IsCanonical "engine" := by
  rcases normalized_subtopics with
    ⟨_, hSelf, hSeparated, hWildcards, _⟩
  have hBlank : Text.isBlank '\u3000' = true := by decide
  have hBoth : ∀ c ∈ "*>".toList, c = '*' ∨ c = '>' := by
    intro c hMember
    have hChars : "*>".toList = ['*', '>'] := by decide
    rw [hChars] at hMember
    exact List.mem_pair.mp hMember
  have hEngine : normalize "engine" = "engine" := by decide
  refine ⟨hBlank, ?_, ?_, hBoth, ?_, (hSelf _).mp hEngine⟩
  · rw [hSeparated _ _ _ (Or.inr (Or.inr hBlank))]
    decide
  · rw [hSeparated _ _ _ (Or.inr (Or.inr hBlank))]
    decide
  · rw [hWildcards _ _ _ hBoth]
    exact hEngine

end Courier.Topic
