import Courier.Proofs.Transport.NatsSession

/-
  What a feed carries, subscription by subscription on the
  server.  Some of these may be chosen: as long as no two of
  the chosen ones have messages waiting, what was passed on
  from them and what waits on them is what they were sent, in
  the order of publishing.

  Key definitions include:
    * `Nats.OneWaits`, `Nats.Waits`
    * `Nats.Session.OneAtATime`
    * `Nats.Session.Carries`, `Nats.Session.Carried`

  Main statements:
    * `Nats.Waits.push_taken`, `Nats.Waits.pass`
    * `Nats.Session.Carried.step`
    * `Nats.Session.Carried.fed`
-/

namespace Courier.Nats

open Registration

variable {H ω : Type}

------------------------------------------------------------
-- What waits on some subscriptions on the server
------------------------------------------------------------

/- Whether one of some chosen patterns accepts a subject. -/
def takes
    (chosen : Nat → Bool)
    (ps : List String)
    (subject : String) : Bool :=
  ps.zipIdx.any fun place => chosen place.2 && accepts place.1 subject

theorem takes_iff
    {chosen : Nat → Bool}
    {ps : List String}
    {subject : String} :
    takes chosen ps subject = true ↔
      ∃ (k : Nat) (pattern : String),
        ps[k]? = some pattern ∧ chosen k = true ∧
          accepts pattern subject = true := by
  unfold takes
  rw [List.any_eq_true]
  constructor
  · rintro ⟨⟨pattern, k⟩, hMember, hBoth⟩
    rw [Bool.and_eq_true] at hBoth
    exact
      ⟨k, pattern, List.mem_zipIdx_iff_getElem?.mp hMember, hBoth.1,
        hBoth.2⟩
  · rintro ⟨k, pattern, hAt, hChosen, hAccepts⟩
    refine ⟨(pattern, k), List.mem_zipIdx_iff_getElem?.mpr hAt, ?_⟩
    rw [hChosen, hAccepts]
    rfl

/- No two of the chosen streams have payloads waiting. -/
def OneWaits
    (chosen : Nat → Bool)
    (streams : List Stream) : Prop :=
  ∀ (j k : Nat) (s s' : Stream),
    streams[j]? = some s → streams[k]? = some s' →
      chosen j = true → chosen k = true →
        s.waiting ≠ [] → s'.waiting ≠ [] → j = k

/- The payloads that wait on the chosen streams, all on one. -/
structure Waits
    (chosen : Nat → Bool)
    (streams : List Stream)
    (octets : List Octets) : Prop where
  only :
    ∀ {k : Nat} {s}, streams[k]? = some s → chosen k = true →
      s.waiting = [] ∨ s.waiting = octets
  there :
    octets ≠ [] →
      ∃ (k : Nat) (s : Stream),
        streams[k]? = some s ∧ chosen k = true ∧ s.waiting = octets

section Waits

variable {chosen : Nat → Bool}
variable {streams : List Stream}
variable {waiting : List Octets}
variable {k : Nat}

theorem waits_nil
    (hEmpty : ∀ s ∈ streams, s.waiting = []) :
    Waits chosen streams [] where
  only := fun hAt _ => Or.inl (hEmpty _ (List.mem_of_getElem? hAt))
  there := fun hSome => absurd rfl hSome

/- A payload that nobody takes leaves the streams as they are. -/
theorem Waits.push_refused
    (hWaits : Waits chosen streams waiting)
    {subject : String}
    (octets : Octets)
    (hRefused :
      takes chosen (streams.map (·.pattern)) subject = false) :
    Waits chosen (streams.map (Stream.push subject octets)) waiting := by
  have hSame :
      ∀ {k : Nat} {s}, streams[k]? = some s → chosen k = true →
        s.push subject octets = s := by
    intro k s hAt hChosen
    apply if_neg
    intro hAccepts
    have hTakes : takes chosen (streams.map (·.pattern)) subject = true := by
      apply takes_iff.mpr
      refine ⟨k, s.pattern, ?_, hChosen, hAccepts⟩
      rw [List.getElem?_map, hAt]
      rfl
    cases hTakes.symm.trans hRefused
  constructor
  · intro k s hAt hChosen
    rw [List.getElem?_map] at hAt
    rcases Option.map_eq_some_iff.mp hAt with ⟨old, hOld, rfl⟩
    rw [hSame hOld hChosen]
    exact hWaits.only hOld hChosen
  · intro hSome
    rcases hWaits.there hSome with ⟨k, s, hAt, hChosen, hWaiting⟩
    refine ⟨k, s, ?_, hChosen, hWaiting⟩
    rw [List.getElem?_map, hAt, Option.map_some, hSame hAt hChosen]

/- A payload that is taken waits behind the others. -/
theorem Waits.push_taken
    (hWaits : Waits chosen streams waiting)
    {subject : String}
    (octets : Octets)
    (hTaken : takes chosen (streams.map (·.pattern)) subject = true)
    (hOne :
      OneWaits chosen (streams.map (Stream.push subject octets))) :
    Waits chosen (streams.map (Stream.push subject octets))
      (waiting ++ [octets]) := by
  rcases takes_iff.mp hTaken with ⟨k, pattern, hAt, hChosen, hAccepts⟩
  rw [List.getElem?_map] at hAt
  rcases Option.map_eq_some_iff.mp hAt with ⟨s, hStream, rfl⟩
  have hPushed :
      s.push subject octets =
        { s with waiting := s.waiting ++ [octets] } :=
    if_pos hAccepts
  have hSelf :
      (streams.map (Stream.push subject octets))[k]? =
        some { s with waiting := s.waiting ++ [octets] } := by
    rw [List.getElem?_map, hStream, Option.map_some, hPushed]
  have hNow : s.waiting ++ [octets] ≠ [] := by simp
  -- All that waited before, waited on this stream.
  have hWaiting : s.waiting = waiting := by
    by_cases hNone : waiting = []
    · rcases hWaits.only hStream hChosen with hEmpty | hAll
      · rw [hEmpty, hNone]
      · exact hAll
    · rcases hWaits.there hNone with ⟨j, s', hAt', hChosen', hAll⟩
      have hGrown : (s'.push subject octets).waiting ≠ [] := by
        unfold Stream.push
        split
        · simp
        · rw [hAll]
          exact hNone
      have hThere :
          (streams.map (Stream.push subject octets))[j]? =
            some (s'.push subject octets) := by
        rw [List.getElem?_map, hAt']
        rfl
      have hSame := hOne j k _ _ hThere hSelf hChosen' hChosen hGrown hNow
      subst hSame
      rw [hStream] at hAt'
      cases hAt'
      exact hAll
  constructor
  · intro j x hX hChosen'
    by_cases hEmpty : x.waiting = []
    · exact Or.inl hEmpty
    · have hSame := hOne j k _ _ hX hSelf hChosen' hChosen hEmpty hNow
      subst hSame
      rw [hSelf] at hX
      cases hX
      right
      rw [hWaiting]
  · intro _
    refine ⟨k, _, hSelf, hChosen, ?_⟩
    rw [hWaiting]

/- The first payload that waits is the one that is passed on. -/
theorem Waits.pass
    (hWaits : Waits chosen streams waiting)
    (hOne : OneWaits chosen streams)
    {pattern : String}
    {first : Octets}
    {rest : List Octets}
    (hAt : streams[k]? = some ⟨pattern, first :: rest⟩)
    (hChosen : chosen k = true) :
    waiting = first :: rest ∧
      Waits chosen (streams.set k ⟨pattern, rest⟩) rest := by
  have hLength := (List.getElem?_eq_some_iff.mp hAt).1
  have hAll : waiting = first :: rest := by
    rcases hWaits.only hAt hChosen with hEmpty | hAll
    · cases hEmpty
    · exact hAll.symm
  refine ⟨hAll, ?_, ?_⟩
  · intro j s hS hChosen'
    rcases Pool.stepped_cases hS with ⟨-, rfl⟩ | ⟨hOther, hOld⟩
    · exact Or.inr rfl
    · left
      by_contra hSome
      exact hOther
        (hOne j k _ _ hOld hAt hChosen' hChosen hSome (List.cons_ne_nil _ _))
  · intro _
    exact ⟨k, _, List.getElem?_set_self hLength, hChosen, rfl⟩

/- Other streams do not matter. -/
theorem Waits.skip
    (hWaits : Waits chosen streams waiting)
    (hOther : chosen k = false)
    (s : Stream) :
    Waits chosen (streams.set k s) waiting := by
  have hApart : ∀ {j : Nat}, chosen j = true → k ≠ j := by
    rintro j hChosen rfl
    cases hOther.symm.trans hChosen
  constructor
  · intro j x hX hChosen
    rw [List.getElem?_set_ne (hApart hChosen)] at hX
    exact hWaits.only hX hChosen
  · intro hSome
    rcases hWaits.there hSome with ⟨j, x, hX, hChosen, hWaiting⟩
    exact
      ⟨j, x, (List.getElem?_set_ne (hApart hChosen)).trans hX, hChosen,
        hWaiting⟩

end Waits

namespace Session

/-
  No two of the subscriptions on the server that make up a
  feed have messages waiting.
-/
def OneAtATime
    (n : Nat)
    (s : Session H ω) : Prop :=
  ∀ feed, s.feeds[n]? = some feed →
    OneWaits (fun _ => true) feed.streams

/- The messages that one of some chosen patterns accepts. -/
def sentTo
    (s : Session H ω)
    (chosen : Nat → Bool)
    (ps : List String) : List Message :=
  (s.taken.filter fun x => takes chosen ps x.1).map (·.2)

------------------------------------------------------------
-- What a feed carries
------------------------------------------------------------

/- How some chosen streams of a feed stand to what they were sent. -/
inductive Carries
    (chosen : Nat → Bool)
    (ps : List String)
    (feed : Feed H)
    (passed sent : List Message) : Prop where
  /- What was not passed on waits. -/
  | going
      (pending : List Message)
      (hPatterns : feed.streams.map (·.pattern) = ps)
      (hWaits :
        Waits chosen feed.streams (pending.map Message.encode))
      (hSent : passed ++ pending = sent)
      (hFits : ∀ m ∈ pending, m.Fits)
  /- What was not passed on is lost. -/
  | lost
      (hOver : feed.streams = [])
      (hPassed : passed <+: sent)

/- A feed carries what was published for it. -/
def Carried
    (chosen : Nat → Bool)
    (n : Nat)
    (key : Key)
    (handler : H)
    (s : Session H ω) : Prop :=
  ∃ feed passed,
    s.feeds[n]? = some feed ∧
    feed.handler = handler ∧
    s.handedFrom n chosen = passed.map (handler, ·) ∧
    Carries chosen (patterns key.topic) feed passed
      (s.sentTo chosen (patterns key.topic))

/- At most one of the chosen streams of a feed has payloads waiting. -/
def OneWaitsOf
    (chosen : Nat → Bool)
    (n : Nat)
    (s : Session H ω) : Prop :=
  ∀ feed, s.feeds[n]? = some feed → OneWaits chosen feed.streams

namespace Carries

variable {chosen : Nat → Bool}
variable {ps : List String}
variable {feed : Feed H}
variable {passed sent : List Message}

/- What was passed on is a beginning of what was sent. -/
theorem passed_prefix
    (hCarries : Carries chosen ps feed passed sent) :
    passed <+: sent := by
  cases hCarries with
  | going pending hPatterns hWaits hSent hFits => exact ⟨pending, hSent⟩
  | lost hOver hPassed => exact hPassed

/- A feed that goes on has passed all on once nothing waits. -/
theorem drained
    (hCarries : Carries chosen ps feed passed sent)
    (hGoing : feed.streams ≠ [])
    (hEmpty :
      ∀ {k : Nat} {s}, feed.streams[k]? = some s → chosen k = true →
        s.waiting = []) :
    passed = sent := by
  cases hCarries with
  | going pending hPatterns hWaits hSent hFits =>
      cases pending with
      | nil => rw [← hSent, List.append_nil]
      | cons m others =>
          rcases hWaits.there (List.cons_ne_nil _ _) with
            ⟨k, s, hAt, hChosen, hWaiting⟩
          rw [hEmpty hAt hChosen] at hWaiting
          cases hWaiting
  | lost hOver hPassed => exact absurd hOver hGoing

/- A message that was published is sent, if it is accepted. -/
theorem published
    (hCarries : Carries chosen ps feed passed sent)
    (subject : String)
    {m : Message}
    (hFits : m.Fits)
    (hOne :
      OneWaits chosen
        (feed.streams.map (Stream.push subject m.encode))) :
    Carries chosen ps
      { feed with streams := feed.streams.map (Stream.push subject m.encode) }
      passed
      (sent ++ if takes chosen ps subject then [m] else []) := by
  cases hCarries with
  | going pending hPatterns hWaits hSent hPending =>
      subst hPatterns
      have hPatterns' := patterns_push feed.streams subject m.encode
      cases hTakes : takes chosen (feed.streams.map (·.pattern)) subject with
      | true =>
          have hPushed := hWaits.push_taken m.encode hTakes hOne
          refine .going (pending ++ [m]) hPatterns' ?_ ?_ ?_
          · rw [List.map_append]
            exact hPushed
          · rw [← hSent, if_pos rfl, List.append_assoc]
          · intro other hMember
            rcases List.mem_append.mp hMember with hOld | hNew
            · exact hPending other hOld
            · rw [List.mem_singleton.mp hNew]
              exact hFits
      | false =>
          have hPushed := hWaits.push_refused m.encode hTakes
          refine .going pending hPatterns' hPushed ?_ hPending
          rw [hSent, if_neg nofun, List.append_nil]
  | lost hOver hPassed =>
      refine .lost ?_ (hPassed.trans (List.prefix_append _ _))
      simp [hOver]

section Delivery

variable {k : Nat}
variable {pattern : String}
variable {octets : Octets}
variable {rest : List Octets}
variable (hCarries : Carries chosen ps feed passed sent)
variable (hStream : feed.streams[k]? = some ⟨pattern, octets :: rest⟩)

include hCarries hStream

/- A delivery from a chosen stream passes the next message on. -/
theorem delivered
    (hOne : OneWaits chosen feed.streams)
    (hChosen : chosen k = true) :
    ∃ m : Message,
      m.Fits ∧ octets = m.encode ∧
      Carries chosen ps
        { feed with streams := feed.streams.set k ⟨pattern, rest⟩ }
        (passed ++ [m]) sent := by
  cases hCarries with
  | going pending hPatterns hWaits hSent hPending =>
      rcases hWaits.pass hOne hStream hChosen with ⟨hAll, hWaits'⟩
      cases pending with
      | nil => cases hAll
      | cons m others =>
          rw [List.map_cons, List.cons.injEq] at hAll
          rcases hAll with ⟨rfl, rfl⟩
          refine ⟨m, hPending m List.mem_cons_self, rfl, ?_⟩
          refine .going others ?_ hWaits' ?_ ?_
          · exact (patterns_set hStream _).trans hPatterns
          · rw [List.append_assoc]
            exact hSent
          · intro other hMember
            exact hPending other (List.mem_cons_of_mem m hMember)
  | lost hOver hPassed =>
      rw [hOver] at hStream
      cases hStream

/- A delivery from any other stream does not matter. -/
theorem skipped
    (hOther : chosen k = false) :
    Carries chosen ps
      { feed with streams := feed.streams.set k ⟨pattern, rest⟩ }
      passed sent := by
  cases hCarries with
  | going pending hPatterns hWaits hSent hPending =>
      exact
        .going pending ((patterns_set hStream rest).trans hPatterns)
          (hWaits.skip hOther _) hSent hPending
  | lost hOver hPassed =>
      rw [hOver] at hStream
      cases hStream

end Delivery

end Carries

/- What was sent, after one more message was published. -/
theorem sentTo_append
    {s s' : Session H ω}
    {subject : String}
    {m : Message}
    (hTaken : s'.taken = s.taken ++ [(subject, m)])
    (chosen : Nat → Bool)
    (ps : List String) :
    s'.sentTo chosen ps =
      s.sentTo chosen ps ++ if takes chosen ps subject then [m] else [] := by
  unfold sentTo
  rw [hTaken, List.filter_append, List.map_append]
  cases hTakes : takes chosen ps subject with
  | true => simp [hTakes]
  | false => simp [hTakes]

/- A handler that was just subscribed was sent nothing. -/
theorem carried_start
    {chosen : Nat → Bool}
    {n : Nat}
    {key : Key}
    {handler : H}
    {c : NatsClient H (Watch H ω)}
    (hFed : c.state.transport.feeds[n]? = some (.fresh key handler)) :
    Carried chosen n key handler (start c) := by
  refine ⟨.fresh key handler, [], hFed, rfl, rfl, ?_⟩
  have hEmpty :
      ∀ s ∈ (Feed.fresh key handler).streams, s.waiting = [] := by
    intro s hMember
    rcases List.mem_map.mp hMember with ⟨pattern, -, rfl⟩
    rfl
  have hPatterns :
      (Feed.fresh key handler).streams.map (·.pattern) =
        patterns key.topic := by
    unfold Feed.fresh
    rw [List.map_map]
    exact List.map_id _
  exact .going [] hPatterns (waits_nil hEmpty) rfl nofun

section Carried

variable [DecidableEq H]
variable {handlers : Handlers H ω}
variable {chosen : Nat → Bool}
variable {n : Nat}
variable {key : Key}
variable {handler : H}
variable {s s' : Session H ω}

theorem Carried.step
    (hCarried : Carried chosen n key handler s)
    (hStep : Step handlers s s')
    (hOne : OneWaitsOf chosen n s)
    (hOne' : OneWaitsOf chosen n s') :
    Carried chosen n key handler s' := by
  rcases hCarried with ⟨feed, passed, hFeed, hHandler, hPassed, hCarries⟩
  cases moved_of_step hStep hFeed with
  | apart hFeed' hTaken hHanded =>
      refine ⟨feed, passed, hFeed', hHandler, ?_, ?_⟩
      · rw [hHanded, hPassed]
      · unfold sentTo
        rw [hTaken]
        exact hCarries
  | ended hFeed' hTaken hHanded =>
      refine ⟨_, passed, hFeed', hHandler, ?_, ?_⟩
      · rw [hHanded, hPassed]
      · unfold sentTo
        rw [hTaken]
        exact .lost rfl hCarries.passed_prefix
  | @published subject m hFits hFeed' hTaken hHanded =>
      refine ⟨_, passed, hFeed', hHandler, ?_, ?_⟩
      · rw [hHanded, hPassed]
      · rw [sentTo_append hTaken]
        exact hCarries.published subject hFits (hOne' _ hFeed')
  | @passed k pattern octets rest hStream hFeed' hTaken hHanded =>
      have hSent :
          s'.sentTo chosen (patterns key.topic) =
            s.sentTo chosen (patterns key.topic) := by
        unfold sentTo
        rw [hTaken]
      rw [Carried, hSent]
      cases hChosen : chosen k with
      | true =>
          rcases hCarries.delivered hStream (hOne feed hFeed) hChosen with
            ⟨m, hFits, rfl, hNext⟩
          have hPassed' :
              s'.handedFrom n chosen =
                (passed ++ [m]).map (handler, ·) := by
            rw [hHanded, hPassed, hChosen, if_pos rfl,
              handlers.receive_watched feed.handler hFits, hHandler]
            simp
          rcases hFeed' with hGoing | hOver
          · exact ⟨_, passed ++ [m], hGoing, hHandler, hPassed', hNext⟩
          · exact
              ⟨_, passed ++ [m], hOver, hHandler, hPassed',
                .lost rfl hNext.passed_prefix⟩
      | false =>
          have hPassed' :
              s'.handedFrom n chosen = passed.map (handler, ·) := by
            rw [hHanded, hPassed, hChosen, if_neg nofun, List.append_nil]
          rcases hFeed' with hGoing | hOver
          · exact
              ⟨_, passed, hGoing, hHandler, hPassed',
                hCarries.skipped hStream hChosen⟩
          · exact
              ⟨_, passed, hOver, hHandler, hPassed',
                .lost rfl hCarries.passed_prefix⟩

theorem Reachable.carried
    {first : Session H ω}
    (hReachable : Reachable handlers (OneWaitsOf chosen n) first s)
    (hCarried : Carried chosen n key handler first) :
    Carried chosen n key handler s := by
  induction hReachable with
  | start hHolds => exact hCarried
  | step hEarlier hStep hHolds ih =>
      exact ih.step hStep hEarlier.holds hHolds

end Carried

/- What a handler is passed, of what was sent to it. -/
theorem Carried.fed
    {chosen : Nat → Bool}
    {n : Nat}
    {key : Key}
    {handler : H}
    {s : Session H ω}
    (hCarried : Carried chosen n key handler s) :
    s.handedFrom n chosen <+:
      (s.sentTo chosen (patterns key.topic)).map (handler, ·) ∧
    ∀ feed,
      s.feeds[n]? = some feed → feed.streams ≠ [] →
      (∀ k stream, feed.streams[k]? = some stream → chosen k = true →
        stream.waiting = []) →
      s.handedFrom n chosen =
        (s.sentTo chosen (patterns key.topic)).map (handler, ·) := by
  rcases hCarried with ⟨feed, passed, hFeed, -, hPassed, hCarries⟩
  rw [hPassed]
  refine ⟨hCarries.passed_prefix.map _, ?_⟩
  intro feed' hFeed' hGoing hEmpty
  cases hFeed.symm.trans hFeed'
  rw [hCarries.drained hGoing fun hAt hChosen =>
    hEmpty _ _ hAt hChosen]

end Session

end Courier.Nats
