import Courier.Proofs.Topic.Routing
import Mathlib.Data.List.Forall2

/-
  This file says what becomes of a subscription under a topic
  that is not the wildcard and does not end in one.  By the
  rule of the library it covers its own topic only.

  The servers know more wildcards, and clients hand topics to
  them as they are.  A NATS server lets a token `*` stand for
  any one token, and an AMQP server knows a word `#` besides,
  for any number of words.  So both transports agree with the
  library exactly if no segment of the topic is one of these.

  Key definitions include:
    * `Nats.Reaches`, `Amqp.Reaches`
    * `Nats.StandsFor`, `Amqp.StandsFor`

  Main statements:
    * `Nats.acceptsTokens_iff`, `Amqp.acceptsWords_iff`
    * `Topic.read_as_topic_iff`
-/

namespace Courier

open Topic

------------------------------------------------------------
-- Topics
------------------------------------------------------------

namespace Topic

section Literal

variable {topic : String}
variable (hMore : topic ≠ everything)
variable (hBelow : ¬ ".>".toList <:+ topic.toList)

include hBelow in
/- A topic that does not end in the wildcard has no base. -/
theorem baseChars?_eq_none_of_not_below :
    baseChars? topic.toList = none := by
  rw [Option.eq_none_iff_forall_ne_some]
  intro base hBase
  exact hBelow ⟨base, (baseChars?_eq_some_iff.mp hBase).symm⟩

include hMore in
/- Nor are its characters those of the wildcard. -/
theorem toList_ne_wildcard :
    topic.toList ≠ wildcard :=
  fun hSame => hMore (String.toList_inj.mp hSame)

include hMore hBelow

/- Such a topic covers itself only. -/
theorem covers_iff_eq
    (subject : String) :
    covers topic subject = true ↔ subject = topic := by
  rw [covers,
    coversChars_self_iff (baseChars?_eq_none_of_not_below hBelow)
      (toList_ne_wildcard hMore),
    segments_injective.eq_iff, String.toList_inj]
  exact eq_comm

/- Its last segment is not the wildcard. -/
theorem wildcard_not_last :
    ¬ [wildcard] <:+ segments topic.toList := by
  rintro ⟨leading, hLast⟩
  have hText := join_segments topic.toList
  rw [← hLast] at hText
  by_cases hNone : leading = []
  · rw [hNone] at hText
    exact hMore (String.toList_inj.mp hText.symm)
  · rw [join_append hNone (List.cons_ne_nil _ _)] at hText
    exact hBelow ⟨join leading, hText⟩

end Literal

/- A topic with a word replaced is another topic. -/
theorem exists_replaced
    {topic : String}
    {word other : List Char}
    (hWord : word ∈ segments topic.toList)
    (hOther : other ≠ word)
    (hNoDot : dot ∉ other) :
    ∃ (subject : String) (leading rest : List (List Char)),
      segments topic.toList = leading ++ word :: rest ∧
        segments subject.toList = leading ++ other :: rest ∧
        subject ≠ topic := by
  rcases List.append_of_mem hWord with ⟨leading, rest, hTopic⟩
  have hNoDots : ∀ x ∈ leading ++ other :: rest, dot ∉ x := by
    intro x hx
    have hSegment : x = other ∨ x ∈ segments topic.toList := by
      rw [hTopic]
      simp only [List.mem_append, List.mem_cons] at hx ⊢
      tauto
    rcases hSegment with rfl | hSegment
    · exact hNoDot
    · exact dot_not_mem_segments hSegment
  have hSubject :
      segments (String.ofList (join (leading ++ other :: rest))).toList =
        leading ++ other :: rest := by
    rw [String.toList_ofList]
    exact segments_join (by simp) hNoDots
  refine ⟨_, leading, rest, hTopic, hSubject, ?_⟩
  intro hSame
  rw [hSame, hTopic] at hSubject
  have hEnds := List.append_cancel_left hSubject
  exact hOther (List.cons.inj hEnds).1.symm

end Topic

------------------------------------------------------------
-- NATS
------------------------------------------------------------

namespace Nats

/- A client has messages on a subject for its subscription. -/
def Reaches
    (topic subject : String) : Prop :=
  ∃ pattern ∈ patterns topic, accepts pattern subject = true

/- A token stands for itself, or for any one. -/
def StandsFor
    (token word : List Char) : Prop :=
  token = anyToken ∨ token = word

/-
  Tokens accept others that they stand for one by one, unless
  the last one is there for all that follow.
-/
theorem acceptsTokens_iff
    {tokens : List (List Char)}
    (hLast : ¬ [allTokens] <:+ tokens)
    (subject : List (List Char)) :
    acceptsTokens tokens subject = true ↔
      List.Forall₂ StandsFor tokens subject := by
  induction tokens generalizing subject with
  | nil => cases subject <;> simp [acceptsTokens, List.forall₂_nil_left_iff]
  | cons token rest ih =>
      have hRest : ¬ [allTokens] <:+ rest :=
        fun hSuffix =>
          hLast (hSuffix.trans (List.suffix_cons token rest))
      have hToken : ¬ (token = allTokens ∧ rest = []) := by
        rintro ⟨rfl, rfl⟩
        exact hLast (List.suffix_refl _)
      cases subject with
      | nil => simp [acceptsTokens, List.forall₂_nil_right_iff]
      | cons first others =>
          simp [acceptsTokens, hToken, StandsFor, ih hRest]

/- Every token stands for itself. -/
theorem standsFor_refl
    (tokens : List (List Char)) :
    List.Forall₂ StandsFor tokens tokens :=
  List.forall₂_same.mpr fun _ _ => Or.inr rfl

/- Tokens that are no wildcards stand for themselves only. -/
theorem standsFor_iff_eq
    {tokens : List (List Char)}
    (hNone : anyToken ∉ tokens)
    (words : List (List Char)) :
    List.Forall₂ StandsFor tokens words ↔ words = tokens := by
  constructor
  · intro hStands
    have hSame : List.Forall₂ Eq tokens words := by
      induction hStands with
      | nil => exact .nil
      | cons hToken _ ih =>
          rcases List.ne_and_not_mem_of_not_mem_cons hNone with
            ⟨hHead, hRest⟩
          exact .cons (hToken.resolve_left (Ne.symm hHead)) (ih hRest)
    exact (List.forall₂_eq_eq_eq ▸ hSame).symm
  · rintro rfl
    exact standsFor_refl words

section Reaches

variable {topic : String}
variable (hMore : topic ≠ everything)
variable (hBelow : ¬ ".>".toList <:+ topic.toList)
include hMore hBelow

/- A client subscribes under such a topic as it is. -/
theorem reaches_iff
    (subject : String) :
    Reaches topic subject ↔
      List.Forall₂ StandsFor
        (segments topic.toList) (segments subject.toList) := by
  have hBase : base? topic = none := by
    rw [base?, baseChars?_eq_none_of_not_below hBelow]
    rfl
  simp only [Reaches, patterns, hBase, List.mem_singleton,
    exists_eq_left, accepts]
  exact acceptsTokens_iff (wildcard_not_last hMore hBelow) _

/- It gets no messages of other topics, if no token is a wildcard. -/
theorem reaches_own_iff :
    (∀ subject, Reaches topic subject ↔ subject = topic) ↔
      anyToken ∉ segments topic.toList := by
  constructor
  · intro hOwn hToken
    have hOther : ['x'] ≠ anyToken := by decide
    rcases exists_replaced hToken hOther (by decide) with
      ⟨subject, leading, rest, hTopic, hSubject, hReplaced⟩
    apply hReplaced
    rw [← hOwn, reaches_iff hMore hBelow, hTopic, hSubject]
    exact
      List.rel_append (standsFor_refl leading)
        (.cons (Or.inl rfl) (standsFor_refl rest))
  · intro hNone subject
    rw [reaches_iff hMore hBelow, standsFor_iff_eq hNone,
      segments_injective.eq_iff, String.toList_inj]

end Reaches

end Nats

------------------------------------------------------------
-- AMQP
------------------------------------------------------------

namespace Amqp

/- A client has messages on a subject for its subscription. -/
def Reaches
    (topic subject : String) : Prop :=
  accepts (bindingKey topic) subject = true

/- A word stands for itself, for any one, or for any number. -/
def StandsFor
    (word : List Char)
    (part : List (List Char)) : Prop :=
  word = anyWords ∨
    ∃ other, part = [other] ∧ (word = anyWord ∨ word = other)

/- What is left of a list is one of its ends. -/
theorem mem_endings_iff
    {α : Type}
    (ending as : List α) :
    ending ∈ endings as ↔ ending <:+ as := by
  induction as with
  | nil => simp [endings]
  | cons a rest ih => simp [endings, ih, List.suffix_cons_iff]

/- Words accept what falls into parts that they stand for. -/
theorem acceptsWords_iff
    (key subject : List (List Char)) :
    acceptsWords key subject = true ↔
      ∃ parts,
        subject = parts.flatten ∧ List.Forall₂ StandsFor key parts := by
  induction key generalizing subject with
  | nil => simp [acceptsWords]
  | cons word rest ih =>
      by_cases hAll : word = anyWords
      · simp only [acceptsWords, hAll, if_true, List.any_eq_true,
          mem_endings_iff, ih]
        constructor
        · rintro ⟨_, ⟨part, rfl⟩, parts, rfl, hRest⟩
          exact ⟨part :: parts, rfl, .cons (Or.inl rfl) hRest⟩
        · rintro ⟨parts, rfl, hStands⟩
          cases hStands with
          | cons hPart hRest =>
              rename_i part parts
              exact ⟨_, ⟨part, rfl⟩, parts, rfl, hRest⟩
      · cases subject with
        | nil =>
            simp only [acceptsWords, hAll, if_false, Bool.false_eq_true,
              false_iff]
            rintro ⟨parts, hNone, hStands⟩
            cases hStands with
            | cons hPart hRest =>
                rcases hPart with hPart | ⟨other, rfl, -⟩
                · exact hAll hPart
                · simp at hNone
        | cons first others =>
            simp only [acceptsWords, hAll, if_false, Bool.and_eq_true,
              Bool.or_eq_true, beq_iff_eq, ih]
            constructor
            · rintro ⟨hFirst, parts, rfl, hRest⟩
              exact
                ⟨[first] :: parts, rfl,
                  .cons (Or.inr ⟨first, rfl, hFirst⟩) hRest⟩
            · rintro ⟨parts, hSubject, hStands⟩
              cases hStands with
              | cons hPart hRest =>
                  rename_i part parts
                  rcases hPart with hPart | ⟨other, rfl, hFirst⟩
                  · exact absurd hPart hAll
                  · cases hSubject
                    exact ⟨hFirst, parts, rfl, hRest⟩

/- Every word stands for itself. -/
theorem standsFor_self
    (words : List (List Char)) :
    List.Forall₂ StandsFor words (words.map ([·])) := by
  rw [List.forall₂_map_right_iff, List.forall₂_same]
  intro word _
  exact Or.inr ⟨word, rfl, Or.inr rfl⟩

/- Words that are no wildcards stand for themselves only. -/
theorem standsFor_iff_eq
    {words : List (List Char)}
    (hAny : anyWord ∉ words)
    (hAll : anyWords ∉ words)
    (parts : List (List (List Char))) :
    List.Forall₂ StandsFor words parts ↔ parts = words.map ([·]) := by
  constructor
  · intro hStands
    induction hStands with
    | nil => rfl
    | cons hWord _ ih =>
        rcases List.ne_and_not_mem_of_not_mem_cons hAny with
          ⟨hNotAny, hAnyRest⟩
        rcases List.ne_and_not_mem_of_not_mem_cons hAll with
          ⟨hNotAll, hAllRest⟩
        rcases hWord with hWord | ⟨other, rfl, hWord⟩
        · exact absurd hWord.symm hNotAll
        · cases hWord.resolve_left (Ne.symm hNotAny)
          rw [ih hAnyRest hAllRest]
          rfl
  · rintro rfl
    exact standsFor_self words

section Reaches

variable {topic : String}
variable (hMore : topic ≠ everything)
variable (hBelow : ¬ ".>".toList <:+ topic.toList)
include hMore hBelow

/- Such a topic is a binding key as it is. -/
theorem reaches_iff
    (subject : String) :
    Reaches topic subject ↔
      ∃ parts,
        segments subject.toList = parts.flatten ∧
          List.Forall₂ StandsFor (segments topic.toList) parts := by
  rw [Reaches, accepts_eq, segments_bindingKey,
    if_neg (toList_ne_wildcard hMore),
    baseChars?_eq_none_of_not_below hBelow]
  exact acceptsWords_iff _ _

/- A word that is a wildcard stands for another word, too. -/
theorem exists_reached_other
    {word : List Char}
    (hWord : word ∈ segments topic.toList)
    (hOther : word ≠ ['x'])
    (hStands : StandsFor word [['x']]) :
    ∃ subject, Reaches topic subject ∧ subject ≠ topic := by
  rcases exists_replaced hWord (Ne.symm hOther) (by decide) with
    ⟨subject, leading, rest, hTopic, hSubject, hReplaced⟩
  refine ⟨subject, ?_, hReplaced⟩
  rw [reaches_iff hMore hBelow, hTopic, hSubject]
  refine ⟨leading.map ([·]) ++ [['x']] :: rest.map ([·]), ?_, ?_⟩
  · simp [← List.flatMap_def]
  · exact
      List.rel_append (standsFor_self leading)
        (.cons hStands (standsFor_self rest))

/- It gets no messages of other topics, if no word is a wildcard. -/
theorem reaches_own_iff :
    (∀ subject, Reaches topic subject ↔ subject = topic) ↔
      anyWord ∉ segments topic.toList ∧
        anyWords ∉ segments topic.toList := by
  constructor
  · intro hOwn
    have hNone :
        ∀ word ∈ segments topic.toList,
          word ≠ ['x'] → ¬ StandsFor word [['x']] := by
      intro word hWord hOther hStands
      rcases exists_reached_other hMore hBelow hWord hOther hStands with
        ⟨subject, hReaches, hReplaced⟩
      exact hReplaced ((hOwn subject).mp hReaches)
    constructor
    · intro hAny
      exact
        hNone anyWord hAny (by decide) (Or.inr ⟨['x'], rfl, Or.inl rfl⟩)
    · intro hAll
      exact hNone anyWords hAll (by decide) (Or.inl rfl)
  · rintro ⟨hAny, hAll⟩ subject
    simp only [reaches_iff hMore hBelow, standsFor_iff_eq hAny hAll,
      exists_eq_right, ← List.flatMap_def, List.flatMap_singleton',
      segments_injective.eq_iff, String.toList_inj]

end Reaches

end Amqp

------------------------------------------------------------
-- All rules
------------------------------------------------------------

namespace Topic

/-
  Take a topic that is not the wildcard and does not end in one,
  whatever else it holds.  In memory a subscription under it has
  the messages on the topic itself and no others.

  Each server reads it word by word.  So a client on a server
  has the messages on the topic, and no others exactly if no
  word is a wildcard to that server.
-/
theorem read_as_topic_iff
    {topic : String}
    (hMore : topic ≠ everything)
    (hBelow : ¬ ".>".toList <:+ topic.toList) :
    (∀ subject, covers topic subject = true ↔ subject = topic) ∧
    (∀ subject,
      Nats.Reaches topic subject ↔
        List.Forall₂ Nats.StandsFor
          (segments topic.toList) (segments subject.toList)) ∧
    (∀ subject,
      Amqp.Reaches topic subject ↔
        ∃ parts,
          segments subject.toList = parts.flatten ∧
            List.Forall₂ Amqp.StandsFor (segments topic.toList) parts) ∧
    (Nats.Reaches topic topic ∧ Amqp.Reaches topic topic) ∧
    ((∀ subject, Nats.Reaches topic subject ↔ subject = topic) ↔
      Nats.anyToken ∉ segments topic.toList) ∧
    ((∀ subject, Amqp.Reaches topic subject ↔ subject = topic) ↔
      Amqp.anyWord ∉ segments topic.toList ∧
        Amqp.anyWords ∉ segments topic.toList) := by
  have hOwn : covers topic topic = true :=
    (covers_iff_eq hMore hBelow topic).mpr rfl
  refine
    ⟨covers_iff_eq hMore hBelow, Nats.reaches_iff hMore hBelow,
      Amqp.reaches_iff hMore hBelow, ⟨?_, ?_⟩,
      Nats.reaches_own_iff hMore hBelow,
      Amqp.reaches_own_iff hMore hBelow⟩
  · exact
      (Nats.reaches_iff hMore hBelow topic).mpr (Nats.standsFor_refl _)
  · exact Amqp.accepts_bindingKey_of_covers hOwn

/- Both servers send other messages on `channels.*`, too. -/
theorem starred_read_as_pattern :
    ("channels.*" ≠ everything ∧
      ¬ ".>".toList <:+ "channels.*".toList) ∧
    (¬ ∀ subject,
      Nats.Reaches "channels.*" subject ↔ subject = "channels.*") ∧
    (¬ ∀ subject,
      Amqp.Reaches "channels.*" subject ↔ subject = "channels.*") := by
  have hMore : "channels.*" ≠ everything := by decide
  have hBelow : ¬ ".>".toList <:+ "channels.*".toList := by decide
  rcases read_as_topic_iff hMore hBelow with ⟨-, -, -, -, hNats, hAmqp⟩
  refine ⟨⟨hMore, hBelow⟩, ?_, ?_⟩
  · rw [hNats]
    decide
  · rw [hAmqp]
    decide

/-
  A message on the channel `c1` is not for `channels.*` nor for
  `channels.#`, yet the servers send it there.
-/
theorem wildcards_of_servers :
    covers "channels.*" "channels.c1" = false ∧
      covers "channels.#" "channels.c1" = false ∧
      Nats.Reaches "channels.*" "channels.c1" ∧
      Amqp.Reaches "channels.*" "channels.c1" ∧
      Amqp.Reaches "channels.#" "channels.c1" := by
  simp only [Nats.Reaches, Amqp.Reaches]
  decide

end Topic

end Courier
