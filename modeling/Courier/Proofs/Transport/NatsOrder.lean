import Courier.Proofs.Topic.Subjects
import Courier.Proofs.Transport.NatsFeeds

/-
  The order in which a NATS server feeds a handler, whatever is
  published meanwhile, and whichever of the subscriptions on
  the server is served next.

  The messages that one subscription on the server accepts are
  passed on in the order of their publishing.  A pattern that
  ends in `.>` is fed by two of them, and a message that waits
  on one may be overtaken by later ones that wait on the other.
  So a handler is passed all its messages in order as long as
  no two of its subscriptions on the server have messages
  waiting at the same time.  In any case it is passed each of
  its messages, and none twice.

  Main statements:
    * `Nats.Session.matching_eq_covered`
    * `Nats.Session.Reachable.fed_anyhow`
    * `Nats.Session.fed_in_publish_order`
    * `Nats.Session.bare_overtaken`
-/

namespace Courier.Nats

open Registration

variable {H ω : Type}

namespace Session

------------------------------------------------------------
-- The order of messages
------------------------------------------------------------

/- A subscription on the server is chosen by its number. -/
theorem handedFrom_only
    (s : Session H ω)
    (n k : Nat) :
    s.handedFrom n (· == k) = s.handedOn n k := by
  unfold handedFrom handedOn
  congr 1
  apply List.filter_congr
  intro x _
  simp [Prod.ext_iff]

theorem handedFrom_all
    (s : Session H ω)
    (n : Nat) :
    s.handedFrom n (fun _ => true) = s.handedTo n := by
  simp [handedFrom, handedTo]

theorem sentTo_only
    (s : Session H ω)
    {ps : List String}
    {k : Nat}
    {pattern : String}
    (hAt : ps[k]? = some pattern) :
    s.sentTo (· == k) ps = s.accepted pattern := by
  unfold sentTo accepted
  congr 1
  apply List.filter_congr
  intro x _
  rw [Bool.eq_iff_iff, takes_iff]
  constructor
  · rintro ⟨j, other, hOther, hSame, hAccepts⟩
    cases beq_iff_eq.mp hSame
    rw [hAt] at hOther
    cases hOther
    exact hAccepts
  · intro hAccepts
    exact ⟨k, pattern, hAt, beq_self_eq_true k, hAccepts⟩

theorem sentTo_all
    (s : Session H ω)
    (topic : String) :
    s.sentTo (fun _ => true) (patterns topic) = s.matching topic := by
  unfold sentTo matching
  congr 1
  apply List.filter_congr
  intro x _
  rw [Bool.eq_iff_iff, takes_iff, List.any_eq_true]
  constructor
  · rintro ⟨k, pattern, hAt, -, hAccepts⟩
    exact ⟨pattern, List.mem_of_getElem? hAt, hAccepts⟩
  · rintro ⟨pattern, hMember, hAccepts⟩
    rcases List.mem_iff_getElem?.mp hMember with ⟨k, hAt⟩
    exact ⟨k, pattern, hAt, rfl, hAccepts⟩

/-
  What matches a pattern is what it covers, whatever
  subscriptions on the server it takes.
-/
theorem matching_eq_covered
    {c : NatsClient H (Watch H ω)}
    {s : Session H ω}
    (hKept : Kept c s)
    (hRoot : c.state.root = "" ∨ Topic.IsSubject c.state.root)
    {topic : String}
    (hPattern : Topic.IsPattern topic) :
    s.matching topic =
      (s.taken.filter fun x => Topic.covers topic x.1).map (·.2) := by
  unfold matching
  congr 1
  apply List.filter_congr
  intro x hMember
  rcases hKept.built x hMember with ⟨channel, hBuild⟩
  have hSubject := Topic.isSubject_of_build hRoot hBuild
  have hCount := count_accepting hPattern hSubject
  rw [Bool.eq_iff_iff, List.any_eq_true]
  cases hCovers : Topic.covers topic x.1 with
  | true =>
      rw [hCovers, if_pos rfl] at hCount
      have hSome :
          0 < ((patterns topic).filter fun pattern =>
            accepts pattern x.1).length := by
        omega
      rcases List.exists_mem_of_length_pos hSome with ⟨pattern, hPattern⟩
      rcases List.mem_filter.mp hPattern with ⟨hThere, hAccepts⟩
      exact ⟨fun _ => rfl, fun _ => ⟨pattern, hThere, hAccepts⟩⟩
  | false =>
      rw [hCovers, if_neg nofun] at hCount
      have hNone := List.length_eq_zero_iff.mp hCount
      refine ⟨?_, nofun⟩
      rintro ⟨pattern, hThere, hAccepts⟩
      exact absurd hAccepts (List.filter_eq_nil_iff.mp hNone pattern hThere)

/-
  Of what matches a pattern, some chosen subscriptions on the
  server accept one part, and the others all the rest.
-/
theorem takes_others
    {topic subject : String}
    (hPattern : Topic.IsPattern topic)
    (hSubject : Topic.IsSubject subject)
    (chosen : Nat → Bool) :
    takes (fun k => !chosen k) (patterns topic) subject =
      (!takes chosen (patterns topic) subject &&
        (patterns topic).any fun pattern => accepts pattern subject) := by
  have hOnce :
      ((patterns topic).filter fun pattern =>
        accepts pattern subject).length ≤ 1 := by
    rw [count_accepting hPattern hSubject]
    split
    · exact le_rfl
    · exact Nat.zero_le 1
  cases hBase : Topic.base? topic with
  | none =>
      simp only [patterns, hBase]
      cases hWhole : accepts topic subject with
      | true => simp [takes, hWhole]
      | false => simp [takes, hWhole]
  | some base =>
      simp only [patterns, hBase] at hOnce ⊢
      cases hBelow : accepts topic subject with
      | true =>
          cases hItself : accepts base subject with
          | true => simp [hBelow, hItself] at hOnce
          | false => simp [takes, hBelow, hItself]
      | false =>
          cases hItself : accepts base subject with
          | true => simp [takes, hBelow, hItself]
          | false => simp [takes, hBelow, hItself]

/- The two parts are all that matches. -/
theorem sentTo_perm
    {c : NatsClient H (Watch H ω)}
    {s : Session H ω}
    (hKept : Kept c s)
    (hRoot : c.state.root = "" ∨ Topic.IsSubject c.state.root)
    {topic : String}
    (hPattern : Topic.IsPattern topic)
    (chosen : Nat → Bool) :
    (s.sentTo chosen (patterns topic) ++
        s.sentTo (fun k => !chosen k) (patterns topic)).Perm
      (s.matching topic) := by
  have hSplit :=
    (List.filter_append_perm
      (fun x => takes chosen (patterns topic) x.1)
      (s.taken.filter fun x =>
        (patterns topic).any fun pattern => accepts pattern x.1)).map
      (·.2)
  rw [List.map_append, List.filter_filter, List.filter_filter] at hSplit
  have hOthers :
      (s.taken.filter fun x =>
          takes (fun k => !chosen k) (patterns topic) x.1) =
        s.taken.filter fun x =>
          !takes chosen (patterns topic) x.1 &&
            (patterns topic).any fun pattern => accepts pattern x.1 := by
    apply List.filter_congr
    intro x hMember
    rcases hKept.built x hMember with ⟨channel, hBuild⟩
    have hSubject := Topic.isSubject_of_build hRoot hBuild
    exact takes_others hPattern hSubject chosen
  have hChosen :
      (s.taken.filter fun x => takes chosen (patterns topic) x.1) =
        s.taken.filter fun x =>
          takes chosen (patterns topic) x.1 &&
            (patterns topic).any fun pattern => accepts pattern x.1 := by
    apply List.filter_congr
    intro x _
    rw [Bool.eq_iff_iff, Bool.and_eq_true]
    refine ⟨fun hTakes => ⟨hTakes, ?_⟩, And.left⟩
    rcases takes_iff.mp hTakes with ⟨k, pattern, hAt, -, hAccepts⟩
    exact List.any_eq_true.mpr ⟨pattern, List.mem_of_getElem? hAt, hAccepts⟩
  unfold sentTo
  rw [hOthers, hChosen]
  exact hSplit

/- What is chosen, and the rest, are all that is passed on. -/
theorem handedFrom_perm
    (s : Session H ω)
    (n : Nat)
    (chosen : Nat → Bool) :
    (s.handedFrom n chosen ++
        s.handedFrom n fun k => !chosen k).Perm (s.handedTo n) := by
  have hSplit :=
    List.filter_append_perm (fun x => chosen x.1.2)
      (s.handed.filter (·.1.1 = n))
  have hMapped := hSplit.map (·.2)
  rw [List.map_append, List.filter_filter, List.filter_filter] at hMapped
  simp only [Bool.and_comm (chosen _), Bool.and_comm (!chosen _)] at hMapped
  simpa [handedFrom, handedTo] using hMapped

/- A client subscribes under no more than two patterns for one. -/
theorem length_patterns_le
    (topic : String) :
    (patterns topic).length ≤ 2 := by
  unfold patterns
  split
  · exact le_rfl
  · exact Nat.le_succ 1

section Order

variable [DecidableEq H]
variable {handlers : Handlers H ω}
variable {c : NatsClient H (Watch H ω)}
variable {n : Nat}
variable {key : Key}
variable {handler : H}
variable {s : Session H ω}

/- A single subscription on the server is served one at a time. -/
theorem Reachable.chosen_only
    {p : Session H ω → Prop}
    {first : Session H ω}
    (hReachable : Reachable handlers p first s)
    (k : Nat) :
    Reachable handlers (OneWaitsOf (· == k) n) first s := by
  apply hReachable.strengthen
  intro s _ feed _ i j x y _ _ hFirst hSecond _ _
  exact (beq_iff_eq.mp hFirst).trans (beq_iff_eq.mp hSecond).symm

section Fed

variable {p : Session H ω → Prop}
variable (hFed : c.state.transport.feeds[n]? = some (.fresh key handler))

include hFed

/- A feed gets no more subscriptions on the server. -/
theorem Reachable.length_streams_le
    (hReachable : Reachable handlers p (Session.start c) s)
    {feed : Feed H}
    (hFeed : s.feeds[n]? = some feed) :
    feed.streams.length ≤ (patterns key.topic).length := by
  have hCarried :=
    (hReachable.chosen_only 0).carried (carried_start hFed)
  rcases hCarried with ⟨feed', passed, hFeed', -, -, hCarries⟩
  cases hFeed.symm.trans hFeed'
  cases hCarries with
  | going pending hPatterns hWaits hSent hFits =>
      rw [← hPatterns, List.length_map]
  | lost hOver hPassed => simp [hOver]

/- A feed with one subscription on the server serves one at a time. -/
theorem Reachable.oneAtATime
    (hSingle : Topic.base? key.topic = none)
    (hReachable : Reachable handlers p (Session.start c) s) :
    Reachable handlers (OneAtATime n) (Session.start c) s := by
  apply hReachable.strengthen
  intro s hReachable feed hFeed
  have hFew := hReachable.length_streams_le hFed hFeed
  rw [patterns, hSingle, List.length_singleton] at hFew
  intro j k x y hX hY _ _ _ _
  have hFirst := (List.getElem?_eq_some_iff.mp hX).1
  have hSecond := (List.getElem?_eq_some_iff.mp hY).1
  omega

/- Beside the first one there is no more than one other. -/
theorem Reachable.chosen_others
    (hReachable : Reachable handlers p (Session.start c) s) :
    Reachable handlers (OneWaitsOf (fun k => !(k == 0)) n)
      (Session.start c) s := by
  apply hReachable.strengthen
  intro s hReachable feed hFeed
  have hFew := hReachable.length_streams_le hFed hFeed
  have hTwo := length_patterns_le key.topic
  intro j k x y hX hY hFirst hSecond _ _
  have hX := (List.getElem?_eq_some_iff.mp hX).1
  have hY := (List.getElem?_eq_some_iff.mp hY).1
  simp only [Bool.not_eq_true', beq_eq_false_iff_ne] at hFirst hSecond
  omega

/- In any order, all that matches is passed on, and nothing else. -/
theorem Reachable.fed_anyhow
    (hReachable : Reachable handlers p (Session.start c) s)
    (hRoot : c.state.root = "" ∨ Topic.IsSubject c.state.root)
    (hPattern : Topic.IsPattern key.topic) :
    (s.handedTo n).Subperm ((s.matching key.topic).map (handler, ·)) ∧
    ∀ feed,
      s.feeds[n]? = some feed → feed.streams ≠ [] →
      backlog feed.streams = [] →
      (s.handedTo n).Perm
        ((s.matching key.topic).map (handler, ·)) := by
  have hFirst :=
    ((hReachable.chosen_only 0).carried (carried_start hFed)).fed
  have hOthers :=
    ((hReachable.chosen_others hFed).carried (carried_start hFed)).fed
  have hHanded := s.handedFrom_perm n (· == 0)
  have hMatching :=
    (sentTo_perm hReachable.kept hRoot hPattern (· == 0)).map
      (handler, ·)
  rw [List.map_append] at hMatching
  constructor
  · have hBoth :=
      hFirst.1.sublist.append hOthers.1.sublist
    exact
      (hHanded.symm.subperm.trans hBoth.subperm).trans hMatching.subperm
  · intro feed hFeed hGoing hEmpty
    have hDrained :
        ∀ {k : Nat} {stream},
          feed.streams[k]? = some stream → stream.waiting = [] :=
      fun hAt =>
        List.flatMap_eq_nil_iff.mp hEmpty _ (List.mem_of_getElem? hAt)
    rw [hFirst.2 feed hFeed hGoing fun _ _ hAt _ => hDrained hAt,
      hOthers.2 feed hFeed hGoing fun _ _ hAt _ => hDrained hAt]
      at hHanded
    exact hHanded.symm.trans hMatching

end Fed

/-
  From the time when a handler was subscribed under a key, in
  whatever order messages are published and delivered and
  other calls take their steps:
    * handlers are passed what deliveries pass to them;
    * what comes from one subscription on the server is a
      beginning of what it accepts, in the order of publishing,
      and all of that once nothing waits on it;
    * so it is for all messages of the handler together, if
      its pattern does not end in `.>`, or no two of its
      subscriptions on the server ever have messages waiting;
    * otherwise they may come in another order, but none comes
      twice, and none is left out once nothing waits;
    * the messages are those that the pattern covers.
-/
theorem fed_in_publish_order
    (hFed : c.state.transport.feeds[n]? = some (.fresh key handler))
    (hReachable :
      Reachable handlers (fun _ => True) (Session.start c) s) :
    s.client.state.world.seen =
      c.state.world.seen ++ s.handed.map (·.2) ∧
    (∀ k pattern, (patterns key.topic)[k]? = some pattern →
      s.handedOn n k <+: (s.accepted pattern).map (handler, ·) ∧
      ∀ feed stream,
        s.feeds[n]? = some feed → feed.streams[k]? = some stream →
        stream.waiting = [] →
        s.handedOn n k = (s.accepted pattern).map (handler, ·)) ∧
    (Topic.base? key.topic = none ∨
        Reachable handlers (OneAtATime n) (Session.start c) s →
      s.handedTo n <+: (s.matching key.topic).map (handler, ·) ∧
      ∀ feed,
        s.feeds[n]? = some feed → feed.streams ≠ [] →
        backlog feed.streams = [] →
        s.handedTo n = (s.matching key.topic).map (handler, ·)) ∧
    (Topic.IsPattern key.topic →
      c.state.root = "" ∨ Topic.IsSubject c.state.root →
      ((s.handedTo n).Subperm
          ((s.matching key.topic).map (handler, ·)) ∧
        ∀ feed,
          s.feeds[n]? = some feed → feed.streams ≠ [] →
          backlog feed.streams = [] →
          (s.handedTo n).Perm
            ((s.matching key.topic).map (handler, ·))) ∧
      s.matching key.topic =
        (s.taken.filter fun x =>
          Topic.covers key.topic x.1).map (·.2)) := by
  have hKept := hReachable.kept
  refine ⟨hKept.noted, ?_, ?_, ?_⟩
  · intro k pattern hAt
    have hCarried :=
      (hReachable.chosen_only k).carried (carried_start hFed)
    rcases hCarried.fed with ⟨hPrefix, hDrained⟩
    rw [handedFrom_only, sentTo_only s hAt] at hPrefix hDrained
    refine ⟨hPrefix, ?_⟩
    intro feed stream hFeed hStream hEmpty
    have hGoing : feed.streams ≠ [] := by
      intro hOver
      rw [hOver] at hStream
      cases hStream
    apply hDrained feed hFeed hGoing
    intro j x hX hSame
    cases beq_iff_eq.mp hSame
    cases hStream.symm.trans hX
    exact hEmpty
  · intro hOrderly
    have hOne : Reachable handlers (OneAtATime n) (Session.start c) s := by
      rcases hOrderly with hSingle | hOne
      · exact hReachable.oneAtATime hFed hSingle
      · exact hOne
    have hCarried := hOne.carried (carried_start hFed)
    rcases hCarried.fed with ⟨hPrefix, hDrained⟩
    rw [handedFrom_all, sentTo_all] at hPrefix hDrained
    refine ⟨hPrefix, ?_⟩
    intro feed hFeed hGoing hEmpty
    apply hDrained feed hFeed hGoing
    intro k x hX _
    exact
      List.flatMap_eq_nil_iff.mp hEmpty x (List.mem_of_getElem? hX)
  · intro hPattern hRoot
    exact
      ⟨hReachable.fed_anyhow hFed hRoot hPattern,
        matching_eq_covered hKept hRoot hPattern⟩

end Order

------------------------------------------------------------
-- A channel, and what is below it
------------------------------------------------------------

/- A handler that does well at every message. -/
def willing : Handlers Unit Unit where
  handle := fun _ _ world => (.ok, world)
  cancel := fun _ world => (.ok (), world)

/- A message is delivered to it, and it is fed on. -/
theorem step_delivered
    (s : Session Unit Unit)
    (n k : Nat)
    {feed : Feed Unit}
    {pattern : String}
    {m : Message}
    {rest : List Octets}
    (hFeed : s.client.state.transport.feeds[n]? = some feed)
    (hStream : feed.streams[k]? = some ⟨pattern, m.encode :: rest⟩)
    (hFits : m.Fits) :
    Step willing s
      { client :=
          (s.client.withTransport
            { s.client.state.transport with
              feeds :=
                s.client.state.transport.feeds.set n
                  { feed with
                    streams :=
                      feed.streams.set k ⟨pattern, rest⟩ } }).withWorld
            { world := s.client.state.world.world
              seen := s.client.state.world.seen ++ [(feed.handler, m)] }
        taken := s.taken
        handed := s.handed ++ [((n, k), feed.handler, m)] } := by
  have hStep : Step willing s _ := .deliver n k
  rw [deliver_eq hFeed hStream, willing.receive_watched _ hFits] at hStep
  change
    Step willing s
      { client := _
        taken := s.taken
        handed :=
          s.handed ++
            ((s.client.state.world.seen ++ [(feed.handler, m)]).drop
              s.client.state.world.seen.length).map ((n, k), ·) } at hStep
  rw [List.drop_left] at hStep
  exact hStep

/- The key of a subscription to a channel and all below it. -/
def wholeChannel : Key where
  client := "client"
  topic := "channels.E.>"

/- A message of the channel, or of something below it. -/
def telemetry
    (subtopic : String) : Message where
  channel := "E"
  subtopic := subtopic
  publisher := "p"
  protocol := "mqtt"
  created := 7
  payload := [104, 105]

/- A message of the channel itself. -/
def bare : Message :=
  telemetry ""

/- A message of something below the channel. -/
def nested : Message :=
  telemetry "engine"

theorem bare_fits :
    bare.Fits := by
  constructor
  · decide
  · decide
  · decide
  · decide
  · decide

theorem nested_fits :
    nested.Fits := by
  constructor
  · decide
  · decide
  · decide
  · decide
  · decide

/-
  The handler is subscribed.  One subscription on the server
  feeds it with what is below the channel, the other one with
  the messages of the channel itself.
-/
def attending
    (below itself : List Message)
    (taken : List (String × Message))
    (handed : List ((Nat × Nat) × Unit × Message)) :
    Session Unit Unit where
  client :=
    { registry :=
        { table := Table.empty.insert wholeChannel ⟨(), 0⟩
          poisoned := false }
      state :=
        { root := "channels"
          closed := false
          transport :=
            { maxPayload := 1048576
              delay := .zero
              lost := none
              feeds :=
                [⟨(),
                  [ ⟨"channels.E.>", below.map Message.encode⟩
                  , ⟨"channels.E", itself.map Message.encode⟩ ]⟩]
              log :=
                [.subscribe "channels.E.>", .subscribe "channels.E"] ++
                  taken.map fun x => .publish x.1 x.2.encode }
          world := { world := (), seen := handed.map (·.2) } } }
  taken := taken
  handed := handed

/- Nothing was published yet. -/
def attentive : Session Unit Unit :=
  attending [] [] [] []

theorem attentive_fed :
    attentive.client.state.transport.feeds[0]? =
      some (.fresh wholeChannel ()) := by
  rfl

/- Messages wait on only one of the two. -/
theorem attending_oneAtATime
    {below itself : List Message}
    (taken : List (String × Message))
    (handed : List ((Nat × Nat) × Unit × Message))
    (hOne : below = [] ∨ itself = []) :
    OneAtATime 0 (attending below itself taken handed) := by
  intro feed hFeed
  cases hFeed
  rintro (_ | _ | j) (_ | _ | k) s s' hS hS' - - hSome hSome'
  · rfl
  · cases hS
    cases hS'
    rcases hOne with rfl | rfl
    · exact absurd rfl hSome
    · exact absurd rfl hSome'
  · cases hS'
  · cases hS
    cases hS'
    rcases hOne with rfl | rfl
    · exact absurd rfl hSome'
    · exact absurd rfl hSome
  · rfl
  · cases hS'
  · cases hS
  · cases hS
  · cases hS

/- A message of the channel itself was published, and waits. -/
def announced : Session Unit Unit :=
  attending [] [bare] [("channels.E", bare)] []

/- What is published in all, with the subjects. -/
def both : List (String × Message) :=
  [("channels.E", bare), ("channels.E.engine", nested)]

/- Each message was delivered before the next one was published. -/
def inTurn : Session Unit Unit :=
  attending [] [] both [((0, 1), (), bare), ((0, 0), (), nested)]

theorem reachable_inTurn :
    Reachable willing (OneAtATime 0) attentive inTurn := by
  have hBare : Step willing attentive announced :=
    .publish "E" bare_fits rfl rfl
  have hBareDelivered :
      Step willing announced
        (attending [] [] [("channels.E", bare)] [((0, 1), (), bare)]) :=
    step_delivered announced 0 1 rfl rfl bare_fits
  have hNested :
      Step willing
        (attending [] [] [("channels.E", bare)] [((0, 1), (), bare)])
        (attending [nested] [] both [((0, 1), (), bare)]) :=
    .publish "E" nested_fits rfl rfl
  have hNestedDelivered :
      Step willing
        (attending [nested] [] both [((0, 1), (), bare)]) inTurn :=
    step_delivered (attending [nested] [] both [((0, 1), (), bare)])
      0 0 rfl rfl nested_fits
  have hStart : Reachable willing (OneAtATime 0) attentive attentive :=
    .start (attending_oneAtATime _ _ (Or.inl rfl))
  have hFirst :=
    (hStart.step hBare
      (attending_oneAtATime _ _ (Or.inl rfl))).step hBareDelivered
      (attending_oneAtATime _ _ (Or.inl rfl))
  exact
    (hFirst.step hNested
      (attending_oneAtATime _ _ (Or.inr rfl))).step hNestedDelivered
      (attending_oneAtATime _ _ (Or.inl rfl))

/- The handler was passed both, in the order of publishing. -/
theorem inTurn_fed_in_order :
    attentive.client.state.transport.feeds[0]? =
      some (.fresh wholeChannel ()) ∧
    Reachable willing (OneAtATime 0) attentive inTurn ∧
    inTurn.handedTo 0 =
      (inTurn.matching wholeChannel.topic).map ((), ·) ∧
    inTurn.matching wholeChannel.topic =
      (both.filter fun x =>
        Topic.covers wholeChannel.topic x.1).map (·.2) ∧
    inTurn.handedTo 0 = [((), bare), ((), nested)] := by
  have hReachable :
      Reachable willing (fun _ => True) attentive inTurn :=
    reachable_inTurn.strengthen fun _ => trivial
  rcases fed_in_publish_order attentive_fed hReachable with
    ⟨-, -, hInOrder, hCovered⟩
  rcases hInOrder (Or.inr reachable_inTurn) with ⟨-, hDrained⟩
  exact
    ⟨attentive_fed, reachable_inTurn,
      hDrained _ rfl (List.cons_ne_nil _ _) rfl,
      (hCovered (by decide) (Or.inr (by decide))).2, rfl⟩

/- Both were published, and nothing was delivered yet. -/
def overlapping : Session Unit Unit :=
  attending [nested] [bare] both []

/- What is below the channel was served first. -/
def overtaking : Session Unit Unit :=
  attending [] [] both [((0, 0), (), nested), ((0, 1), (), bare)]

theorem reachable_overtaking :
    Reachable willing (fun _ => True) attentive overtaking := by
  have hBare : Step willing attentive announced :=
    .publish "E" bare_fits rfl rfl
  have hNested : Step willing announced overlapping :=
    .publish "E" nested_fits rfl rfl
  have hNestedDelivered :
      Step willing overlapping
        (attending [] [bare] both [((0, 0), (), nested)]) :=
    step_delivered overlapping 0 0 rfl rfl nested_fits
  have hBareDelivered :
      Step willing
        (attending [] [bare] both [((0, 0), (), nested)]) overtaking :=
    step_delivered (attending [] [bare] both [((0, 0), (), nested)])
      0 1 rfl rfl bare_fits
  have hStart : Reachable willing (fun _ => True) attentive attentive :=
    .start trivial
  have hPublished := (hStart.step hBare trivial).step hNested trivial
  exact
    (hPublished.step hNestedDelivered trivial).step hBareDelivered trivial

/-
  The client has just subscribed the handler, and both messages
  match its pattern.  The handler is passed both, but the one
  that was published last comes first.
-/
theorem bare_overtaken :
    Client.subscribe transport willing.watched wholeChannel ()
        (Client.create "channels" (.create .healthy)
          { world := (), seen := [] }) =
      (.ok (), attentive.client) ∧
    Reachable willing (fun _ => True) attentive overtaking ∧
    overtaking.matching wholeChannel.topic = [bare, nested] ∧
    overtaking.handedTo 0 = [((), nested), ((), bare)] ∧
    ¬ overtaking.handedTo 0 <+:
      (overtaking.matching wholeChannel.topic).map ((), ·) := by
  have hNotFirst : ((), nested) ≠ ((), bare) := by decide
  refine ⟨rfl, reachable_overtaking, rfl, rfl, ?_⟩
  intro hPrefix
  exact hNotFirst (List.cons_prefix_cons.mp hPrefix).1

end Session

end Courier.Nats
