import Courier.Amqp.BindingKey
import Courier.Nats.Pattern
import Courier.Proofs.Topic.Words

/-
  This file shows that the rules of all transports agree on
  which subjects a pattern covers: the rule of the library, the
  subscriptions that a client opens on a NATS server, and the
  key that it binds a queue by on an AMQP server.

  The rules of both servers are read word by word: words that
  stand for themselves have to be there, and the last word may
  stand for all that follow.

  Main statements:
    * `Nats.acceptsTokens_plain_iff`, `Nats.acceptsTokens_rest_iff`
    * `Amqp.acceptsWords_plain_iff`, `Amqp.acceptsWords_rest_iff`
    * `Nats.count_accepting`
    * `Amqp.accepts_bindingKey_of_covers`
    * `Topic.routed_alike`
-/

namespace Courier

open Topic

------------------------------------------------------------
-- The rule of a NATS server
------------------------------------------------------------

namespace Nats

/- Plain tokens accept themselves only. -/
theorem acceptsTokens_plain_iff
    {tokens : List (List Char)}
    (hPlain : ∀ token ∈ tokens, IsPlain token)
    (subject : List (List Char)) :
    acceptsTokens tokens subject = true ↔ tokens = subject := by
  induction tokens generalizing subject with
  | nil => cases subject <;> simp [acceptsTokens]
  | cons token rest ih =>
      have hToken := hPlain token List.mem_cons_self
      have hAll : token ≠ allTokens := hToken.ne_wildcard
      have hAny : token ≠ anyToken := by
        rintro rfl
        exact absurd (hToken.2 '*' List.mem_cons_self) (by decide)
      have hRest := fun s =>
        ih (fun t ht => hPlain t (List.mem_cons_of_mem token ht)) s
      cases subject with
      | nil => simp [acceptsTokens]
      | cons first others =>
          simp [acceptsTokens, hAll, hAny, hRest]

/-
  Plain tokens with the last one standing for all that follow
  accept what starts with them, if at least one token follows.
-/
theorem acceptsTokens_rest_iff
    {tokens : List (List Char)}
    (hPlain : ∀ token ∈ tokens, IsPlain token)
    (subject : List (List Char)) :
    acceptsTokens (tokens ++ [allTokens]) subject = true ↔
      tokens <+: subject ∧ tokens ≠ subject := by
  induction tokens generalizing subject with
  | nil => cases subject <;> simp [acceptsTokens]
  | cons token rest ih =>
      have hToken := hPlain token List.mem_cons_self
      have hAll : token ≠ allTokens := hToken.ne_wildcard
      have hAny : token ≠ anyToken := by
        rintro rfl
        exact absurd (hToken.2 '*' List.mem_cons_self) (by decide)
      have hRest := fun s =>
        ih (fun t ht => hPlain t (List.mem_cons_of_mem token ht)) s
      cases subject with
      | nil => simp [acceptsTokens]
      | cons first others =>
          simp only [List.cons_append, acceptsTokens, hAll, false_and,
            if_false, Bool.and_eq_true, Bool.or_eq_true, beq_iff_eq,
            hAny, false_or, hRest, List.cons_prefix_cons]
          constructor
          · rintro ⟨rfl, hPrefix, hMore⟩
            exact ⟨⟨rfl, hPrefix⟩, by simpa using hMore⟩
          · rintro ⟨⟨rfl, hPrefix⟩, hMore⟩
            exact ⟨rfl, hPrefix, by simpa using hMore⟩

/- The wildcard alone is subscribed under as it is. -/
theorem count_accepting_wildcard
    {topic subject : String}
    (hWildcard : topic.toList = wildcard)
    (hSubject : IsSubject subject) :
    ((patterns topic).filter fun pattern => accepts pattern subject).length =
      if covers topic subject then 1 else 0 := by
  have hBase : base? topic = none := by
    simp [base?, hWildcard, wildcard, baseChars?]
  have hAccepts : accepts topic subject = true := by
    have hNoTokens : ∀ token ∈ ([] : List (List Char)), IsPlain token :=
      fun _ hMember => absurd hMember List.not_mem_nil
    rw [accepts, hWildcard]
    apply (acceptsTokens_rest_iff hNoTokens _).mpr
    exact ⟨List.nil_prefix, (segments_ne_nil _).symm⟩
  have hCovers : covers topic subject = true := by
    rw [covers, hWildcard, coversChars_wildcard_iff]
    exact hSubject.toList_ne_nil
  simp [patterns, hBase, hAccepts, hCovers]

/- A base is subscribed under twice, for itself and for what is below. -/
theorem count_accepting_below
    {topic : String}
    {base : List Char}
    (hBelow : topic.toList = base ++ dot :: wildcard)
    (hPlain : ∀ segment ∈ segments base, IsPlain segment)
    (subject : String) :
    ((patterns topic).filter fun pattern => accepts pattern subject).length =
      if covers topic subject then 1 else 0 := by
  have hBase : base? topic = some (String.ofList base) := by
    rw [base?, hBelow, baseChars?_eq_some_iff.mpr rfl]
    rfl
  have hRest :
      accepts topic subject = true ↔
        segments base <+: segments subject.toList ∧
          segments base ≠ segments subject.toList := by
    rw [accepts, hBelow, segments_append]
    exact acceptsTokens_rest_iff hPlain _
  have hBare :
      accepts (String.ofList base) subject = true ↔
        segments base = segments subject.toList := by
    rw [accepts, String.toList_ofList]
    exact acceptsTokens_plain_iff hPlain _
  have hCovers :
      covers topic subject = true ↔
        segments base <+: segments subject.toList := by
    rw [covers, hBelow]
    exact coversChars_below_iff base _
  by_cases hSame : segments base = segments subject.toList
  · simp [patterns, hBase, hRest, hBare, hCovers, hSame]
  · by_cases hPrefix : segments base <+: segments subject.toList
    · simp [patterns, hBase, hRest, hBare, hCovers, hSame, hPrefix]
    · simp [patterns, hBase, hRest, hBare, hCovers, hSame, hPrefix]

/- A topic is subscribed under as it is. -/
theorem count_accepting_plain
    {topic : String}
    (hPlain : ∀ segment ∈ segments topic.toList, IsPlain segment)
    (subject : String) :
    ((patterns topic).filter fun pattern => accepts pattern subject).length =
      if covers topic subject then 1 else 0 := by
  have hBase : base? topic = none := by
    simp [base?, baseChars?_eq_none hPlain]
  have hAccepts :
      accepts topic subject = true ↔
        segments topic.toList = segments subject.toList :=
    acceptsTokens_plain_iff hPlain _
  have hCovers :
      covers topic subject = true ↔
        segments topic.toList = segments subject.toList :=
    coversChars_plain_iff hPlain _
  by_cases hSame : segments topic.toList = segments subject.toList
  · simp [patterns, hBase, hAccepts, hCovers, hSame]
  · simp [patterns, hBase, hAccepts, hCovers, hSame]

/-
  Of the patterns that a client subscribes under, exactly one
  accepts each subject that is covered, and none any other.
-/
theorem count_accepting
    {topic subject : String}
    (hPattern : IsPattern topic)
    (hSubject : IsSubject subject) :
    ((patterns topic).filter fun pattern => accepts pattern subject).length =
      if covers topic subject then 1 else 0 := by
  rcases hPattern.cases with hWildcard | ⟨base, hBelow, hPlain⟩ | hPlain
  · exact count_accepting_wildcard hWildcard hSubject
  · exact count_accepting_below hBelow hPlain subject
  · exact count_accepting_plain hPlain subject

end Nats

------------------------------------------------------------
-- The rule of an AMQP server
------------------------------------------------------------

namespace Amqp

/-
  Words that a subject starts with may stand in front of any
  key, whatever they stand for.
-/
theorem acceptsWords_append
    {key subject : List (List Char)}
    (words : List (List Char))
    (hAccepts : acceptsWords key subject = true) :
    acceptsWords (words ++ key) (words ++ subject) = true := by
  induction words with
  | nil => exact hAccepts
  | cons word rest ih =>
      by_cases hAny : word = anyWords
      · have hEnding :
            rest ++ subject ∈ endings (word :: (rest ++ subject)) := by
          refine List.mem_cons_of_mem _ ?_
          cases rest ++ subject with
          | nil => exact List.mem_cons_self
          | cons first others => exact List.mem_cons_self
        simp only [List.cons_append, acceptsWords, hAny, if_true]
        rw [← hAny]
        exact List.any_eq_true.mpr ⟨_, hEnding, ih⟩
      · simp only [List.cons_append, acceptsWords, hAny, if_false, ih,
          beq_self_eq_true, Bool.or_true, Bool.and_true]

/- A key of any number of words accepts everything. -/
theorem acceptsWords_anyWords
    (subject : List (List Char)) :
    acceptsWords [anyWords] subject = true := by
  have hEnding : [] ∈ endings subject := by
    induction subject with
    | nil => exact List.mem_cons_self
    | cons first rest ih => exact List.mem_cons_of_mem _ ih
  simp only [acceptsWords, if_true]
  exact List.any_eq_true.mpr ⟨[], hEnding, rfl⟩

/- Words that stand for themselves are there in each subject. -/
theorem acceptsWords_cons_iff
    {word : List Char}
    (hPlain : IsPlain word)
    (hHash : '#' ∉ word)
    (key : List (List Char))
    (subject : List (List Char)) :
    acceptsWords (word :: key) subject = true ↔
      ∃ rest, subject = word :: rest ∧ acceptsWords key rest = true := by
  have hAll : word ≠ anyWords := by
    rintro rfl
    exact hHash List.mem_cons_self
  have hAny : word ≠ anyWord := by
    rintro rfl
    exact absurd (hPlain.2 '*' List.mem_cons_self) (by decide)
  cases subject with
  | nil => simp [acceptsWords, hAll]
  | cons first rest =>
      simp only [acceptsWords, hAll, if_false, Bool.and_eq_true,
        Bool.or_eq_true, beq_iff_eq, hAny, false_or]
      constructor
      · rintro ⟨rfl, hRest⟩
        exact ⟨rest, rfl, hRest⟩
      · rintro ⟨rest, hSubject, hRest⟩
        cases hSubject
        exact ⟨rfl, hRest⟩

/- So a key of such words accepts them and what its end accepts. -/
theorem acceptsWords_append_iff
    {words : List (List Char)}
    (hPlain : ∀ word ∈ words, IsPlain word ∧ '#' ∉ word)
    (key : List (List Char))
    (subject : List (List Char)) :
    acceptsWords (words ++ key) subject = true ↔
      ∃ rest, subject = words ++ rest ∧ acceptsWords key rest = true := by
  induction words generalizing subject with
  | nil => simp
  | cons word others ih =>
      rcases hPlain word List.mem_cons_self with ⟨hWord, hHash⟩
      have hOthers := fun s =>
        ih (fun w hw => hPlain w (List.mem_cons_of_mem word hw)) s
      rw [List.cons_append, acceptsWords_cons_iff hWord hHash]
      constructor
      · rintro ⟨rest, rfl, hRest⟩
        rcases (hOthers rest).mp hRest with ⟨last, rfl, hLast⟩
        exact ⟨last, rfl, hLast⟩
      · rintro ⟨last, rfl, hLast⟩
        exact ⟨others ++ last, rfl, (hOthers _).mpr ⟨last, rfl, hLast⟩⟩

/- The words of the key that a topic is bound by. -/
theorem segments_bindingKey
    (topic : String) :
    segments (bindingKey topic).toList =
      if topic.toList = wildcard then
        [anyWords]
      else
        match baseChars? topic.toList with
        | some base => segments base ++ [anyWords]
        | none => segments topic.toList := by
  have hEverything : topic = everything ↔ topic.toList = wildcard := by
    rw [← String.toList_inj]
    rfl
  unfold bindingKey base?
  simp only [hEverything]
  split
  · rfl
  · cases hBase : baseChars? topic.toList with
    | none => rfl
    | some base =>
        have hText : ".#".toList = dot :: anyWords := rfl
        simp only [Option.map_some, String.toList_append,
          String.toList_ofList, hText]
        rw [segments_append]
        rfl

/-
  The key of any pattern accepts every subject that the pattern
  covers, also where words of the pattern mean something else
  to the server.
-/
theorem accepts_bindingKey_of_covers
    {topic subject : String}
    (hCovers : covers topic subject = true) :
    accepts (bindingKey topic) subject = true := by
  rw [accepts_eq, segments_bindingKey]
  rw [covers] at hCovers
  split
  · exact acceptsWords_anyWords _
  · rename_i hMore
    split
    · rename_i base hBase
      rw [baseChars?_eq_some_iff.mp hBase, coversChars_below_iff] at hCovers
      rcases hCovers with ⟨rest, hRest⟩
      rw [← hRest]
      exact acceptsWords_append _ (acceptsWords_anyWords rest)
    · rename_i hBase
      rw [coversChars_self_iff hBase hMore] at hCovers
      rw [hCovers, ← List.append_nil (segments subject.toList)]
      exact acceptsWords_append _ rfl

/-
  The key of a well-formed pattern accepts nothing else, if no
  word of the pattern means something else to the server.
-/
theorem covers_of_accepts_bindingKey
    {topic subject : String}
    (hPattern : IsPattern topic)
    (hHash : '#' ∉ topic.toList)
    (hSubject : IsSubject subject)
    (hAccepts : accepts (bindingKey topic) subject = true) :
    covers topic subject = true := by
  rw [accepts_eq, segments_bindingKey] at hAccepts
  rw [covers]
  rcases hPattern.cases with hWildcard | ⟨base, hBelow, hPlain⟩ | hPlain
  · rw [hWildcard, coversChars_wildcard_iff]
    exact hSubject.toList_ne_nil
  · have hWords :
        ∀ word ∈ segments base, IsPlain word ∧ '#' ∉ word := by
      intro word hWord
      refine ⟨hPlain word hWord, ?_⟩
      intro hMember
      apply hHash
      rw [hBelow]
      exact List.mem_append_left _ (mem_of_mem_segments hWord hMember)
    rw [if_neg (hBelow ▸ below_ne_wildcard base), hBelow,
      baseChars?_eq_some_iff.mpr rfl] at hAccepts
    rcases (acceptsWords_append_iff hWords _ _).mp hAccepts with
      ⟨rest, hRest, -⟩
    rw [hBelow, coversChars_below_iff, hRest]
    exact List.prefix_append _ _
  · have hWords :
        ∀ word ∈ segments topic.toList, IsPlain word ∧ '#' ∉ word := by
      intro word hWord
      refine ⟨hPlain word hWord, ?_⟩
      intro hMember
      exact hHash (mem_of_mem_segments hWord hMember)
    rw [if_neg (ne_wildcard_of_plain hPlain), baseChars?_eq_none hPlain,
      ← List.append_nil (segments topic.toList)] at hAccepts
    rcases (acceptsWords_append_iff hWords _ _).mp hAccepts with
      ⟨rest, hRest, hNone⟩
    have hEnd : rest = [] := by
      simpa [acceptsWords] using hNone
    rw [coversChars_plain_iff hPlain, hRest, hEnd, List.append_nil]

end Amqp

------------------------------------------------------------
-- All rules
------------------------------------------------------------

namespace Topic

/-
  Take a well-formed pattern that holds no hash, and a subject.
  It is the same whether the pattern covers the subject,
  whether one of the subscriptions on a NATS server accepts it,
  which is exactly one then, and whether the key on an AMQP
  server does.
-/
theorem routed_alike
    {topic subject : String}
    (hPattern : IsPattern topic)
    (hHash : '#' ∉ topic.toList)
    (hSubject : IsSubject subject) :
    (covers topic subject = true ↔
      ∃ pattern ∈ Nats.patterns topic,
        Nats.accepts pattern subject = true) ∧
    (covers topic subject = true →
      ((Nats.patterns topic).filter fun pattern =>
        Nats.accepts pattern subject).length = 1) ∧
    (covers topic subject = true ↔
      Amqp.accepts (bindingKey topic) subject = true) := by
  have hCount := Nats.count_accepting hPattern hSubject
  refine ⟨⟨?_, ?_⟩, ?_, ?_, ?_⟩
  · intro hCovers
    rw [hCovers, if_pos rfl] at hCount
    have hSome := List.length_pos_iff_exists_mem.mp (hCount ▸ Nat.one_pos)
    rcases hSome with ⟨pattern, hMember⟩
    rw [List.mem_filter] at hMember
    exact ⟨pattern, hMember⟩
  · rintro ⟨pattern, hMember, hAccepts⟩
    by_contra hNot
    rw [if_neg hNot, List.length_eq_zero_iff] at hCount
    have hFiltered :
        pattern ∈
          (Nats.patterns topic).filter fun p => Nats.accepts p subject :=
      List.mem_filter.mpr ⟨hMember, hAccepts⟩
    rw [hCount] at hFiltered
    exact absurd hFiltered List.not_mem_nil
  · intro hCovers
    rw [hCount, hCovers, if_pos rfl]
  · exact Amqp.accepts_bindingKey_of_covers
  · exact Amqp.covers_of_accepts_bindingKey hPattern hHash hSubject

/-
  The base of a pattern is covered by the pattern, which only
  one of the two subscriptions on a NATS server accepts.
-/
theorem routed_alike_bare_base :
    (IsPattern "channels.C.>" ∧
      '#' ∉ "channels.C.>".toList ∧
      IsSubject "channels.C") ∧
    covers "channels.C.>" "channels.C" = true ∧
    (∃ pattern ∈ Nats.patterns "channels.C.>",
      Nats.accepts pattern "channels.C" = true) ∧
    ((Nats.patterns "channels.C.>").filter fun pattern =>
      Nats.accepts pattern "channels.C").length = 1 ∧
    Amqp.accepts (bindingKey "channels.C.>") "channels.C" = true := by
  have hPattern : IsPattern "channels.C.>" := by decide
  have hHash : '#' ∉ "channels.C.>".toList := by decide
  have hSubject : IsSubject "channels.C" := by decide
  have hCovers : covers "channels.C.>" "channels.C" = true := by decide
  rcases routed_alike hPattern hHash hSubject with ⟨hNats, hOnce, hAmqp⟩
  exact ⟨⟨hPattern, hHash, hSubject⟩, hCovers, hNats.mp hCovers,
    hOnce hCovers, hAmqp.mp hCovers⟩

end Topic

end Courier
