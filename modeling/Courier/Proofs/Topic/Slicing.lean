import Courier.Proofs.Topic.Words
import Courier.Text.Octets

/-
  This file reads the rule of patterns octet by octet.  To see
  whether a dot follows the base of a pattern, a topic that
  starts with the octets of the base is cut behind them.  A
  text may only be cut where a character begins, and the topic
  always is.  So the rule on octets is never at fault, and it
  is the rule on characters.

  Key definitions include:
    * `Text.isBoundary`, `Text.octetsFrom?`
    * `Topic.coversSliced?`

  Main statements:
    * `Text.utf8_prefix_iff`
    * `Text.octetsFrom?_append`
    * `Topic.coversSliced?_eq`
-/

namespace Courier

------------------------------------------------------------
-- Cutting octets
------------------------------------------------------------

namespace Text

/-
  Whether some octets may be cut at a place: at both ends, and
  where a character begins.
-/
def isBoundary
    (octets : Octets)
    (n : Nat) : Bool :=
  n == 0 || n == octets.length ||
    octets[n]?.any fun octet => decide octet.IsUTF8FirstByte

/- The octets from a place on; inside a character there are none. -/
def octetsFrom?
    (octets : Octets)
    (n : Nat) : Option Octets :=
  if isBoundary octets n then some (octets.drop n) else none

/- The octets of a text are those of its characters. -/
theorem utf8_eq_flatMap
    (s : String) :
    utf8 s = s.toList.flatMap String.utf8EncodeChar := by
  have hChars : s.toByteArray = s.toList.utf8Encode := by
    rw [← String.toByteArray_ofList, String.ofList_toList]
  simp [utf8, String.toUTF8_eq_toByteArray, hChars, List.utf8Encode]

/- The octets of a text start another if its characters do. -/
theorem utf8_prefix_iff
    {s t : String} :
    utf8 s <+: utf8 t ↔ s.toList <+: t.toList := by
  rw [utf8_eq_flatMap, utf8_eq_flatMap]
  constructor
  · rintro ⟨rest, hOctets⟩
    apply List.isPrefix_of_utf8Encode_append_eq_utf8Encode
      rest.toByteArray
    rw [List.utf8Encode, List.utf8Encode, ← List.toByteArray_append,
      hOctets]
  · rintro ⟨rest, hChars⟩
    rw [← hChars, List.flatMap_append]
    exact List.prefix_append _ _

/- A text may be cut behind the text that it starts with. -/
theorem isBoundary_append
    (s t : String) :
    isBoundary (utf8 (s ++ t)) (utf8 s).length = true := by
  rw [utf8_append]
  cases hChars : t.toList with
  | nil =>
      have hNone : utf8 t = [] := by
        rw [utf8_eq_flatMap, hChars]
        rfl
      simp [isBoundary, hNone]
  | cons c rest =>
      have hSome : 0 < (String.utf8EncodeChar c).length := by
        simp [c.utf8Size_pos]
      have hFirst :
          (utf8 t)[0]? = some (String.utf8EncodeChar c)[0] := by
        rw [utf8_eq_flatMap, hChars, List.flatMap_cons,
          List.getElem?_append_left hSome]
        exact List.getElem?_eq_getElem _
      have hBegins :=
        UInt8.isUTF8FirstByte_getElem_zero_utf8EncodeChar (c := c)
      have hAt :
          (utf8 s ++ utf8 t)[(utf8 s).length]? = (utf8 t)[0]? := by
        rw [List.getElem?_append_right (Nat.le_refl _), Nat.sub_self]
      rw [isBoundary, hAt, hFirst]
      simp [hBegins]

/- Behind one text the octets of the next may be cut off. -/
theorem octetsFrom?_append
    (s t : String) :
    octetsFrom? (utf8 (s ++ t)) (utf8 s).length = some (utf8 t) := by
  rw [octetsFrom?, if_pos (isBoundary_append s t), utf8_append,
    List.drop_left]

end Text

------------------------------------------------------------
-- The rule on octets
------------------------------------------------------------

namespace Topic

/-
  Whether a message on a topic belongs to a pattern, read off
  the octets of the topic.  There is no answer where the topic
  would have to be cut inside a character.
-/
def coversSliced?
    (pattern topic : String) : Option Bool :=
  if pattern = everything then
    some (!topic.isEmpty)
  else
    match base? pattern with
    | none => some (pattern == topic)
    | some base =>
        let octets := Text.utf8 topic
        let start := Text.utf8 base
        if topic = base then
          some true
        else if start.length < octets.length ∧ start <+: octets then
          (Text.octetsFrom? octets start.length).map fun rest =>
            (Text.utf8 ".").isPrefixOf rest
        else
          some false

/- A topic that starts with a base is cut behind it, and a dot found. -/
theorem sliced_append
    (base rest : String) :
    ((Text.octetsFrom? (Text.utf8 (base ++ rest))
        (Text.utf8 base).length).map fun octets =>
      (Text.utf8 ".").isPrefixOf octets) =
      some ((base.toList ++ [dot]).isPrefixOf (base ++ rest).toList) := by
  rw [Text.octetsFrom?_append, Option.map_some, Option.some.injEq,
    Bool.eq_iff_iff, List.isPrefixOf_iff_prefix,
    List.isPrefixOf_iff_prefix, Text.utf8_prefix_iff,
    String.toList_append, List.prefix_append_right_inj]
  rfl

/- A base with a dot behind it is shorter than what it starts. -/
theorem starts_of_dotted
    {base topic : String}
    (hDotted : base.toList ++ [dot] <+: topic.toList) :
    (Text.utf8 base).length < (Text.utf8 topic).length ∧
      Text.utf8 base <+: Text.utf8 topic := by
  have hBase : (base ++ ".").toList <+: topic.toList := by
    rw [String.toList_append]
    exact hDotted
  have hOctets := Text.utf8_prefix_iff.mpr hBase
  rw [Text.utf8_append] at hOctets
  have hLength := hOctets.length_le
  rw [List.length_append] at hLength
  have hDot : (Text.utf8 ".").length = 1 := rfl
  exact ⟨by omega, (List.prefix_append _ _).trans hOctets⟩

/- The rule on octets where the topic is not the base itself. -/
theorem sliced_of_base
    (base topic : String) :
    (if (Text.utf8 base).length < (Text.utf8 topic).length ∧
          Text.utf8 base <+: Text.utf8 topic then
        (Text.octetsFrom? (Text.utf8 topic) (Text.utf8 base).length).map
          fun rest => (Text.utf8 ".").isPrefixOf rest
      else
        some false) =
      some ((base.toList ++ [dot]).isPrefixOf topic.toList) := by
  split
  · rename_i hStarts
    rcases Text.utf8_prefix_iff.mp hStarts.2 with ⟨rest, hRest⟩
    have hTopic : topic = base ++ String.ofList rest := by
      rw [← String.toList_inj, String.toList_append,
        String.toList_ofList, hRest]
    rw [hTopic]
    exact sliced_append base (String.ofList rest)
  · rename_i hNot
    have hNone : ¬ base.toList ++ [dot] <+: topic.toList :=
      fun hDotted => hNot (starts_of_dotted hDotted)
    rw [← List.isPrefixOf_iff_prefix, Bool.not_eq_true] at hNone
    rw [hNone]

/-
  A topic is only ever cut where a character begins, and the
  rule on octets says what the rule on characters says.
-/
theorem coversSliced?_eq
    (pattern topic : String) :
    coversSliced? pattern topic = some (covers pattern topic) := by
  have hEverything : pattern = everything ↔ pattern.toList = ['>'] := by
    rw [← String.toList_inj]
    rfl
  unfold coversSliced? covers coversChars base?
  by_cases hAll : pattern = everything
  · rw [if_pos hAll, if_pos (hEverything.mp hAll), Option.some.injEq,
      Bool.eq_iff_iff]
    simp
  · rw [if_neg hAll, if_neg (mt hEverything.mpr hAll)]
    cases baseChars? pattern.toList with
    | none =>
        have hSame : (pattern == topic) = (pattern.toList == topic.toList) := by
          rw [Bool.eq_iff_iff, beq_iff_eq, beq_iff_eq, String.toList_inj]
        exact congrArg some hSame
    | some chars =>
        have hSliced := sliced_of_base (String.ofList chars) topic
        rw [String.toList_ofList] at hSliced
        dsimp only [Option.map_some]
        by_cases hSame : topic = String.ofList chars
        · rw [if_pos hSame, hSame, String.toList_ofList, BEq.rfl,
            Bool.true_or]
        · have hOther : (topic.toList == chars) = false := by
            rw [beq_eq_false_iff_ne]
            intro hChars
            exact hSame (by rw [← hChars, String.ofList_toList])
          rw [if_neg hSame, hOther, Bool.false_or]
          exact hSliced

end Topic

end Courier
