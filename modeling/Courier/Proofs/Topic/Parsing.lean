import Courier.Proofs.Topic.Subjects
import Mathlib.Data.List.Basic

/-
  Parsing takes the topics apart that building puts together.
  What is built parses into its channel and the normal form of
  its subtopic.  A topic that parses is one that can be built
  as soon as its channel holds nothing reserved, its subtopic
  is in normal form, and it does not end in a dot; it is then
  built from what it parses into.

  Key definitions include:
    * `Topic.Rebuildable`

  Main statements:
    * `Topic.parse_eq_ok_iff`
    * `Topic.parse_build_inverse`
-/

namespace Courier.Topic

------------------------------------------------------------
-- Parsing
------------------------------------------------------------

/- What is left of a topic is what stands behind the root. -/
theorem afterRoot?_eq_some_iff
    {root : String}
    {topic rest : List Char} :
    afterRoot? root.toList topic = some rest ↔
      (rooted root).toList ++ rest = topic := by
  by_cases hNone : root = ""
  · rw [hNone]
    change some topic = some rest ↔ rest = topic
    rw [Option.some.injEq]
    exact eq_comm
  · have hSome : root.toList.isEmpty = false := by simpa using hNone
    have hRooted : (rooted root).toList = root.toList ++ [dot] := by
      rw [rooted, if_neg (by simpa using hNone), String.toList_append]
      rfl
    rw [afterRoot?, hSome, if_neg (by decide), hRooted]
    exact List.isPrefixOf?_eq_some_iff_append_eq

/- A text without dots is its own first part. -/
theorem splitFirst_of_no_dot
    {cs : List Char}
    (hNoDot : dot ∉ cs) :
    splitFirst cs = (cs, []) := by
  induction cs with
  | nil => rfl
  | cons c rest ih =>
      rcases List.ne_and_not_mem_of_not_mem_cons hNoDot with
        ⟨hHead, hRest⟩
      simp [splitFirst, Ne.symm hHead, ih hRest]

/- So is what is in front of the first dot. -/
theorem splitFirst_append
    {cs : List Char}
    (hNoDot : dot ∉ cs)
    (ds : List Char) :
    splitFirst (cs ++ dot :: ds) = (cs, ds) := by
  induction cs with
  | nil => simp [splitFirst]
  | cons c rest ih =>
      rcases List.ne_and_not_mem_of_not_mem_cons hNoDot with
        ⟨hHead, hRest⟩
      simp [splitFirst, Ne.symm hHead, ih hRest]

/- Every text is its first part, or goes on with a dot behind it. -/
theorem splitFirst_cases
    (cs : List Char) :
    dot ∉ (splitFirst cs).1 ∧
      ((splitFirst cs).2 = [] ∧ cs = (splitFirst cs).1 ∨
        cs = (splitFirst cs).1 ++ dot :: (splitFirst cs).2) := by
  induction cs with
  | nil => exact ⟨List.not_mem_nil, Or.inl ⟨rfl, rfl⟩⟩
  | cons c rest ih =>
      by_cases hDot : c = dot
      · simp [splitFirst, hDot]
      · rcases ih with ⟨hNoDot, hEnd | hMore⟩
        · refine ⟨by simp [splitFirst, hDot, hNoDot, Ne.symm hDot], ?_⟩
          exact Or.inl
            ⟨by simp [splitFirst, hDot, hEnd.1],
              by simpa [splitFirst, hDot] using hEnd.2⟩
        · refine ⟨by simp [splitFirst, hDot, hNoDot, Ne.symm hDot], ?_⟩
          exact Or.inr (by simpa [splitFirst, hDot] using hMore)

/- A topic parses if its parts are those of what stands behind the root. -/
theorem parse_eq_ok_iff_splitFirst
    {root topic channel subtopic : String} :
    parse root topic = .ok (channel, subtopic) ↔
      channel ≠ "" ∧
        ∃ rest, (rooted root).toList ++ rest = topic.toList ∧
          splitFirst rest = (channel.toList, subtopic.toList) := by
  constructor
  · intro hParse
    unfold parse at hParse
    split at hParse
    · exact absurd hParse (by simp)
    · split at hParse
      · exact absurd hParse (by simp)
      · rename_i rest hRest
        dsimp only at hParse
        split at hParse
        · exact absurd hParse (by simp)
        · rename_i hSome
          cases hParse
          refine ⟨by simpa using hSome, rest,
            afterRoot?_eq_some_iff.mp hRest, ?_⟩
          rw [String.toList_ofList, String.toList_ofList]
  · rintro ⟨hSome, rest, hTopic, hSplit⟩
    have hTopicSome : topic.isEmpty = false := by
      by_contra hEmpty
      have hNone : topic = "" := by simpa using hEmpty
      rw [hNone] at hTopic
      have hRest : rest = [] := (List.append_eq_nil_iff.mp hTopic).2
      rw [hRest] at hSplit
      have hChannel : channel.toList = [] := by
        simpa [splitFirst] using (congrArg Prod.fst hSplit).symm
      exact hSome (by simpa using hChannel)
    have hChannelSome : channel.toList.isEmpty = false := by
      simpa using hSome
    rw [parse, hTopicSome, if_neg (by decide),
      afterRoot?_eq_some_iff.mpr hTopic]
    simp [hSplit, hChannelSome]

/-
  A topic that parses is the root, the channel and the subtopic
  with dots between them.  Behind the channel a dot may also be
  the end.
-/
theorem parse_eq_ok_iff
    {root topic channel subtopic : String} :
    parse root topic = .ok (channel, subtopic) ↔
      channel ≠ "" ∧ dot ∉ channel.toList ∧
        (topic = rooted root ++ channel ++ dotted subtopic ∨
          subtopic = "" ∧ topic = rooted root ++ channel ++ ".") := by
  rw [parse_eq_ok_iff_splitFirst]
  constructor
  · rintro ⟨hSome, rest, hTopic, hSplit⟩
    have hCases := splitFirst_cases rest
    rw [hSplit] at hCases
    rcases hCases with ⟨hNoDot, ⟨hNone, hRest⟩ | hRest⟩
    · refine ⟨hSome, hNoDot, Or.inl ?_⟩
      have hSubtopic : subtopic = "" := by simpa using hNone
      rw [← String.toList_inj, ← hTopic, hRest, hSubtopic, dotted_empty]
      simp
    · refine ⟨hSome, hNoDot, ?_⟩
      by_cases hSubtopic : subtopic = ""
      · refine Or.inr ⟨hSubtopic, ?_⟩
        rw [← String.toList_inj, ← hTopic, hRest, hSubtopic]
        simp [dot]
      · left
        rw [← String.toList_inj, ← hTopic, hRest,
          dotted_of_ne_empty hSubtopic]
        simp [dot]
  · rintro ⟨hSome, hNoDot, rfl | ⟨rfl, rfl⟩⟩
    · by_cases hSubtopic : subtopic = ""
      · refine ⟨hSome, channel.toList, ?_, ?_⟩
        · simp [hSubtopic, dotted_empty]
        · rw [splitFirst_of_no_dot hNoDot, hSubtopic]
          rfl
      · refine ⟨hSome, channel.toList ++ dot :: subtopic.toList, ?_,
          splitFirst_append hNoDot _⟩
        simp [dotted_of_ne_empty hSubtopic, dot]
    · refine ⟨hSome, channel.toList ++ dot :: [], ?_,
        splitFirst_append hNoDot _⟩
      simp [dot]

------------------------------------------------------------
-- Inverses
------------------------------------------------------------

/-
  What it takes for a topic to be built from the channel and
  the subtopic that it parses into.
-/
structure Rebuildable
    (topic channel subtopic : String) : Prop where
  plain :
    ∀ c ∈ channel.toList,
      isWildcard c = false ∧ Text.isBlank c = false
  normal : normalize subtopic = subtopic
  ended : topic.toList.getLast? ≠ some dot

/- A topic that is built parses into what it was built from. -/
theorem parse_of_build
    {root channel raw topic : String}
    (hBuild : build root channel raw = .ok topic) :
    parse root topic = .ok (channel, normalize raw) := by
  rcases build_eq_ok_iff.mp hBuild with ⟨hSome, hPlain, rfl⟩
  refine parse_eq_ok_iff.mpr ⟨hSome, ?_, Or.inl rfl⟩
  intro hMember
  exact absurd (hPlain dot hMember) (by decide)

/- It does not end in a dot. -/
theorem getLast?_ne_dot_of_build
    {root channel raw topic : String}
    (hBuild : build root channel raw = .ok topic) :
    topic.toList.getLast? ≠ some dot := by
  intro hDot
  rcases List.getLast?_eq_some_iff.mp hDot with ⟨leading, hTopic⟩
  rcases exists_last_of_build hBuild with ⟨others, last, hCut, hPlain⟩
  rw [hTopic, segments_append leading []] at hCut
  have hLast := (List.append_inj_right' hCut rfl)
  exact hPlain.1 (List.singleton_inj.mp hLast).symm

/- What is built can be built again from what it parses into. -/
theorem rebuildable_of_build
    {root channel raw topic : String}
    (hBuild : build root channel raw = .ok topic) :
    Rebuildable topic channel (normalize raw) where
  plain := by
    intro c hMember
    have hReserved := (build_eq_ok_iff.mp hBuild).2.1 c hMember
    simp only [isReserved, Bool.or_eq_false_iff] at hReserved
    exact ⟨hReserved.1.2, hReserved.2⟩
  normal := normalize_normalize raw
  ended := getLast?_ne_dot_of_build hBuild

/- A topic that can be built again is built from what it parses into. -/
theorem build_of_parse
    {root topic channel subtopic : String}
    (hParse : parse root topic = .ok (channel, subtopic))
    (hRebuildable : Rebuildable topic channel subtopic) :
    build root channel subtopic = .ok topic := by
  rcases parse_eq_ok_iff.mp hParse with ⟨hSome, hNoDot, hTopic⟩
  refine build_eq_ok_iff.mpr ⟨hSome, ?_, ?_⟩
  · intro c hMember
    have hDot : c ≠ dot := by
      rintro rfl
      exact hNoDot hMember
    rcases hRebuildable.plain c hMember with ⟨hWildcard, hBlank⟩
    simp [isReserved, hDot, hWildcard, hBlank]
  · rw [hRebuildable.normal]
    rcases hTopic with hTopic | ⟨_, hTopic⟩
    · exact hTopic
    · exfalso
      apply hRebuildable.ended
      rw [hTopic, String.toList_append]
      exact List.getLast?_concat

/-
  Parsing is the inverse of building.  For every root:
    * what is built from a channel and a raw subtopic parses
      into the channel and the normal form of the subtopic;
    * a topic is built from something exactly if it parses
      into a channel without wildcards and blanks and a
      subtopic in normal form, and does not end in a dot;
    * it is then built from what it parses into.
-/
theorem parse_build_inverse
    (root : String) :
    (∀ channel raw topic,
      build root channel raw = .ok topic →
        parse root topic = .ok (channel, normalize raw)) ∧
    (∀ topic,
      (∃ channel raw, build root channel raw = .ok topic) ↔
        ∃ channel subtopic,
          parse root topic = .ok (channel, subtopic) ∧
            Rebuildable topic channel subtopic) ∧
    (∀ topic channel subtopic,
      parse root topic = .ok (channel, subtopic) →
      Rebuildable topic channel subtopic →
        build root channel subtopic = .ok topic) := by
  refine ⟨fun _ _ _ => parse_of_build, ?_, fun _ _ _ => build_of_parse⟩
  intro topic
  constructor
  · rintro ⟨channel, raw, hBuild⟩
    exact ⟨channel, normalize raw, parse_of_build hBuild,
      rebuildable_of_build hBuild⟩
  · rintro ⟨channel, subtopic, hParse, hRebuildable⟩
    exact ⟨channel, subtopic, build_of_parse hParse hRebuildable⟩

/-
  An untidy subtopic comes back in normal form.  The topic with
  a dot at its end parses as well, but is never built.
-/
theorem untidy_parse_build_inverse :
    build "channels" "c1" "/engine *temp." =
        .ok "channels.c1.engine.temp" ∧
      parse "channels" "channels.c1.engine.temp" =
        .ok ("c1", normalize "/engine *temp.") ∧
      Rebuildable "channels.c1.engine.temp" "c1" "engine.temp" ∧
      build "channels" "c1" "engine.temp" =
        .ok "channels.c1.engine.temp" ∧
      parse "channels" "channels.c1." = .ok ("c1", "") ∧
      ¬ ∃ channel raw,
        build "channels" channel raw = .ok "channels.c1." := by
  rcases parse_build_inverse "channels" with ⟨hParsed, hBuilt, hAgain⟩
  have hBuild :
      build "channels" "c1" "/engine *temp." =
        .ok "channels.c1.engine.temp" := by
    decide
  have hNormal : normalize "/engine *temp." = "engine.temp" := by
    decide
  have hRebuildable :
      Rebuildable "channels.c1.engine.temp" "c1" "engine.temp" :=
    hNormal ▸ rebuildable_of_build hBuild
  refine ⟨hBuild, hParsed _ _ _ hBuild, hRebuildable,
    hAgain _ _ _ (by decide) hRebuildable, by decide, ?_⟩
  intro hSome
  rcases (hBuilt _).mp hSome with ⟨_, _, _, hOther⟩
  exact hOther.ended (by decide)

end Courier.Topic
