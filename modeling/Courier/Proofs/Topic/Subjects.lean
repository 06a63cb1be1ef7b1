import Courier.Proofs.Topic.Normal
import Courier.Topic.Subject

/-
  Laws of the subjects that messages travel under.  The
  segments of what is built are those of the root, the channel,
  and those that the subtopic comes down to.  So subjects have
  no empty segments, if the root of all topics has none.

  Main statements:
    * `Topic.build_eq_ok_iff`
    * `Topic.segments_of_build`
    * `Topic.exists_last_of_build`
    * `Topic.isSubject_of_build`
-/

namespace Courier.Topic

------------------------------------------------------------
-- Building
------------------------------------------------------------

/- What is built, and when. -/
theorem build_eq_ok_iff
    {root channel raw topic : String} :
    build root channel raw = .ok topic ↔
      channel ≠ "" ∧
        (∀ c ∈ channel.toList, isReserved c = false) ∧
        topic = rooted root ++ channel ++ dotted (normalize raw) := by
  by_cases hNone : channel = ""
  · simp [build, hNone]
  · by_cases hReserved : channel.toList.any isReserved = true
    · have hSome : ¬ ∀ c ∈ channel.toList, isReserved c = false := by
        simpa using hReserved
      simp only [build, String.isEmpty_iff, hNone, hReserved, if_true,
        if_false, hSome, false_and, and_false, reduceCtorEq]
    · have hAll : ∀ c ∈ channel.toList, isReserved c = false := by
        simpa using hReserved
      rw [build, if_neg (by simpa using hNone), if_neg hReserved,
        Except.ok.injEq]
      exact ⟨fun hTopic => ⟨hNone, hAll, hTopic.symm⟩,
        fun h => h.2.2.symm⟩

/- Nothing stands behind an empty part. -/
theorem dotted_empty :
    dotted "" = "" :=
  rfl

/- All other parts stand behind a dot. -/
theorem dotted_of_ne_empty
    {part : String}
    (hSome : part ≠ "") :
    dotted part = "." ++ part := by
  rw [dotted, if_neg (by simpa using hSome)]

------------------------------------------------------------
-- The segments of what is built
------------------------------------------------------------

/- A channel that can be used is a segment of its own. -/
theorem segments_of_not_reserved
    {channel : String}
    (hPlain : ∀ c ∈ channel.toList, isReserved c = false) :
    segments channel.toList = [channel.toList] := by
  apply segments_of_no_dot
  intro hMember
  exact absurd (hPlain dot hMember) (by decide)

/- What stands behind a dot adds its parts. -/
theorem segments_append_dotted
    (cs : List Char)
    (part : String) :
    segments (cs ++ (dotted part).toList) =
      segments cs ++ parts part := by
  by_cases hNone : part = ""
  · simp [hNone, dotted_empty, parts_empty]
  · have hText : (dotted part).toList = dot :: part.toList := by
      rw [dotted_of_ne_empty hNone, String.toList_append]
      rfl
    rw [hText, segments_append, parts_of_ne_empty hNone]

/- What stands in front of a dot does as well. -/
theorem segments_rooted_append
    (root : String)
    (cs : List Char) :
    segments ((rooted root).toList ++ cs) =
      parts root ++ segments cs := by
  by_cases hNone : root = ""
  · rw [hNone]
    rfl
  · have hText : (rooted root).toList = root.toList ++ [dot] := by
      rw [rooted, if_neg (by simpa using hNone), String.toList_append]
      rfl
    rw [hText, List.append_assoc, parts_of_ne_empty hNone]
    exact segments_append root.toList cs

/- The segments of a topic that is built. -/
theorem segments_of_build
    {root channel raw topic : String}
    (hBuild : build root channel raw = .ok topic) :
    segments topic.toList =
      parts root ++ channel.toList :: parts (normalize raw) := by
  rcases build_eq_ok_iff.mp hBuild with ⟨_, hPlain, rfl⟩
  rw [String.toList_append, String.toList_append, List.append_assoc,
    segments_rooted_append, segments_append_dotted,
    segments_of_not_reserved hPlain, List.singleton_append]

/-
  The channel and what is behind it are segments without
  wildcards and without dots.
-/
theorem isPlain_of_build
    {root channel raw topic : String}
    (hBuild : build root channel raw = .ok topic) :
    ∀ segment ∈ channel.toList :: parts (normalize raw),
      IsPlain segment := by
  rcases build_eq_ok_iff.mp hBuild with ⟨hSome, hPlain, _⟩
  intro segment hSegment
  rcases List.mem_cons.mp hSegment with rfl | hSegment
  · refine ⟨by simpa using hSome, ?_⟩
    intro c hMember
    have hReserved := hPlain c hMember
    simp only [isReserved, Bool.or_eq_false_iff] at hReserved
    exact hReserved.1.2
  · rw [parts_normalize] at hSegment
    rcases isClean_of_mem_kept hSegment with ⟨hNonempty, hClean⟩
    exact ⟨hNonempty, fun c hMember => (hClean c hMember).1⟩

/- So the last segment of a topic that is built is plain. -/
theorem exists_last_of_build
    {root channel raw topic : String}
    (hBuild : build root channel raw = .ok topic) :
    ∃ leading last,
      segments topic.toList = leading ++ [last] ∧ IsPlain last := by
  have hNonempty := List.cons_ne_nil channel.toList (parts (normalize raw))
  have hSplit := List.dropLast_append_getLast hNonempty
  have hPlain := isPlain_of_build hBuild _ (List.getLast_mem hNonempty)
  refine
    ⟨parts root ++ (channel.toList :: parts (normalize raw)).dropLast,
      _, ?_, hPlain⟩
  rw [segments_of_build hBuild, List.append_assoc, hSplit]

------------------------------------------------------------
-- Subjects
------------------------------------------------------------

/- A subject has no empty segments, if the root has none. -/
theorem isSubject_of_build
    {root channel subtopic subject : String}
    (hRoot : root = "" ∨ IsSubject root)
    (hBuild : build root channel subtopic = .ok subject) :
    IsSubject subject := by
  intro segment hSegment
  rw [segments_of_build hBuild] at hSegment
  rcases List.mem_append.mp hSegment with hInRoot | hBelow
  · rcases hRoot with rfl | hRoot
    · exact absurd hInRoot List.not_mem_nil
    · by_cases hNone : root = ""
      · rw [hNone] at hInRoot
        exact absurd hInRoot List.not_mem_nil
      · rw [parts_of_ne_empty hNone] at hInRoot
        exact hRoot segment hInRoot
  · exact (isPlain_of_build hBuild segment hBelow).1

end Courier.Topic
