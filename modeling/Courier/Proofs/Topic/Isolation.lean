import Courier.Proofs.Topic.Slicing
import Courier.Proofs.Topic.Subjects

/-
  Channels are isolated from each other.  The topics below one
  that is built are those of the same channel whose subtopics
  start with the same segments; that a channel or a segment
  only starts with the characters of another is not enough.

  Main statements:
    * `Topic.covers_below_iff_of_build`
    * `Topic.covers_iff_of_build`
    * `Topic.covers_root_of_build`
    * `Topic.channels_isolated`
-/

namespace Courier.Topic

variable {root channel raw topic : String}
variable {channel' raw' topic' : String}

/- What is below a topic starts with the segments of that topic. -/
theorem covers_below_iff
    (base text : String) :
    covers (base ++ ".>") text = true ↔
      segments base.toList <+: segments text.toList := by
  rw [covers, String.toList_append]
  exact coversChars_below_iff base.toList text.toList

/- What is below a topic of a channel belongs to that channel. -/
theorem covers_below_iff_of_build
    (hBuild : build root channel raw = .ok topic)
    (hBuild' : build root channel' raw' = .ok topic') :
    covers (topic ++ ".>") topic' = true ↔
      channel = channel' ∧
        parts (normalize raw) <+: parts (normalize raw') := by
  rw [covers_below_iff, segments_of_build hBuild,
    segments_of_build hBuild', List.prefix_append_right_inj,
    List.cons_prefix_cons, String.toList_inj]

/- A topic that is built stands for itself only. -/
theorem covers_iff_of_build
    (hBuild : build root channel raw = .ok topic)
    (hBuild' : build root channel' raw' = .ok topic') :
    covers topic topic' = true ↔
      channel = channel' ∧ normalize raw = normalize raw' := by
  rcases exists_last_of_build hBuild with ⟨leading, last, hCut, hPlain⟩
  have hBase : baseChars? topic.toList = none := by
    rw [Option.eq_none_iff_forall_ne_some]
    intro base hBase
    rw [baseChars?_eq_some_iff.mp hBase, segments_append] at hCut
    have hLast := List.append_inj_right' hCut rfl
    exact hPlain.ne_wildcard (List.singleton_inj.mp hLast).symm
  have hMore : topic.toList ≠ wildcard := by
    intro hWildcard
    rw [hWildcard] at hCut
    have hLast : [] ++ [wildcard] = leading ++ [last] := hCut
    exact hPlain.ne_wildcard
      (List.singleton_inj.mp (List.append_inj_right' hLast rfl)).symm
  rw [covers, coversChars_self_iff hBase hMore, segments_of_build hBuild,
    segments_of_build hBuild', List.append_cancel_left_eq,
    List.cons.injEq, String.toList_inj, parts_injective.eq_iff]

/- Everything that is built is below its root. -/
theorem covers_root_of_build
    (hRoot : root ≠ "")
    (hBuild : build root channel raw = .ok topic) :
    covers (root ++ ".>") topic = true := by
  rw [covers_below_iff, segments_of_build hBuild, parts_of_ne_empty hRoot]
  exact List.prefix_append _ _

/-
  Take two topics that are built on one root.
    * What is below the first covers the second exactly if both
      are of one channel, and the segments of the first
      subtopic start those of the second.
    * The first covers the second exactly if both have the same
      channel and the same subtopic in normal form.
    * What is below the root, if there is one, covers the first.
  To find this out no topic is ever cut inside a character.
-/
theorem channels_isolated
    (hBuild : build root channel raw = .ok topic)
    (hBuild' : build root channel' raw' = .ok topic') :
    (covers (topic ++ ".>") topic' = true ↔
      channel = channel' ∧
        parts (normalize raw) <+: parts (normalize raw')) ∧
    (covers topic topic' = true ↔
      channel = channel' ∧ normalize raw = normalize raw') ∧
    (root ≠ "" → covers (root ++ ".>") topic = true) ∧
    ∀ pattern text,
      coversSliced? pattern text = some (covers pattern text) :=
  ⟨covers_below_iff_of_build hBuild hBuild',
    covers_iff_of_build hBuild hBuild',
    fun hRoot => covers_root_of_build hRoot hBuild,
    coversSliced?_eq⟩

/-
  A channel whose name starts with that of another, and one
  that only goes on with a character of two octets, hear
  nothing of it.
-/
theorem lookalikes_isolated :
    build "channels" "C" "é" = .ok "channels.C.é" ∧
      build "channels" "C" "/é b" = .ok "channels.C.é.b" ∧
      build "channels" "C" "éb" = .ok "channels.C.éb" ∧
      build "channels" "Cé" "b" = .ok "channels.Cé.b" ∧
      covers "channels.C.é.>" "channels.C.é.b" = true ∧
      covers "channels.C.é.>" "channels.C.éb" = false ∧
      covers "channels.C.é.>" "channels.Cé.b" = false ∧
      covers "channels.>" "channels.C.é" = true ∧
      coversSliced? "channels.C.>" "channels.Cé.b" = some false := by
  have hTopic : build "channels" "C" "é" = .ok "channels.C.é" := by decide
  have hBelow : build "channels" "C" "/é b" = .ok "channels.C.é.b" := by
    decide
  have hSegment : build "channels" "C" "éb" = .ok "channels.C.éb" := by
    decide
  have hChannel : build "channels" "Cé" "b" = .ok "channels.Cé.b" := by
    decide
  refine ⟨hTopic, hBelow, hSegment, hChannel, ?_, ?_, ?_, ?_, ?_⟩
  · exact (channels_isolated hTopic hBelow).1.mpr ⟨rfl, by decide⟩
  · rw [← Bool.not_eq_true]
    intro hCovers
    exact absurd ((channels_isolated hTopic hSegment).1.mp hCovers).2
      (by decide)
  · rw [← Bool.not_eq_true]
    intro hCovers
    exact absurd ((channels_isolated hTopic hChannel).1.mp hCovers).1
      (by decide)
  · exact (channels_isolated hTopic hBelow).2.2.1 (by decide)
  · rw [(channels_isolated hTopic hBelow).2.2.2]
    decide

end Courier.Topic
