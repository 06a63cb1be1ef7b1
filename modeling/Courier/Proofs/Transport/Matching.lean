import Courier.Proofs.Topic.Subjects
import Courier.Proofs.Transport.Rounds

/-
  This file shows that clients on lawful transports cannot be
  told apart by conversations, but for the answers to pings.
  The transport on the first side answers all of them.

  Two clients match if they have the same subscriptions and the
  same boxes, and the same was noted on both sides.  They match
  again after each call, once all has been delivered on both
  sides.

  Key definitions include:
    * `Matched`
    * `Called`

  Main statements:
    * `Matched.answer`
    * `Called.settled`
    * `Matched.account_eq`
    * `Matched.converses`, `Matched.exists_converses`
-/

namespace Courier

open Registration

variable {H ω τ τ' ι ι' : Type}

------------------------------------------------------------
-- Matching clients
------------------------------------------------------------

/- Nobody can tell two clients apart. -/
structure Matched
    (line : Line H τ (Diary H ω) ι)
    (fits : List Key → τ → Prop)
    (line' : Line H τ' (Diary H ω) ι')
    (fits' : List Key → τ' → Prop)
    (root : String)
    (alike : ω → ω → Prop)
    (c : Client H Nat τ (Diary H ω))
    (d : Client H Nat τ' (Diary H ω)) : Prop where
  sound :
    ∃ keys, line.Sound fits root keys c ∧ line'.Sound fits' root keys d
  boxes_eq :
    line'.boxes d.state.transport = line.boxes c.state.transport
  table_eq :
    ∀ key, d.registry.table.get? key = c.registry.table.get? key
  closed_eq : d.state.closed = c.state.closed
  seen : c.state.world.watch.seen.Perm d.state.world.watch.seen
  cancelled : c.state.world.cancelled.Perm d.state.world.cancelled
  /- The handlers of a closed client may be in any world. -/
  world :
    c.state.closed = false →
      alike c.state.world.watch.world d.state.world.watch.world

/-
  Two clients after a call was made on both of them, before
  everything has been delivered.
-/
structure Called
    (line : Line H τ (Diary H ω) ι)
    (fits : List Key → τ → Prop)
    (line' : Line H τ' (Diary H ω) ι')
    (fits' : List Key → τ' → Prop)
    (root : String)
    (alike : ω → ω → Prop)
    /- The handlers that may have boxes now. -/
    (known : List H)
    (c : Client H Nat τ (Diary H ω))
    (d : Client H Nat τ' (Diary H ω)) : Prop where
  matched : Matched line fits line' fits' root alike c d
  thin : ∃ octets, AllThin octets (line.boxes c.state.transport)
  /- Nothing waits on a closed client. -/
  quiet : c.state.closed = true → line.Idle c
  handlers :
    ((line.boxes c.state.transport).map (·.handler)).Sublist known

section Matched

variable {line : Line H τ (Diary H ω) ι}
variable {fits : List Key → τ → Prop}
variable {line' : Line H τ' (Diary H ω) ι'}
variable {fits' : List Key → τ' → Prop}
variable {root : String}
variable {alike : ω → ω → Prop}
variable {c : Client H Nat τ (Diary H ω)}
variable {d : Client H Nat τ' (Diary H ω)}

/- Open clients that match have diaries that are alike. -/
theorem Matched.diary
    (hMatched : Matched line fits line' fits' root alike c d)
    (hOpen : c.state.closed = false) :
    Diary.Alike alike c.state.world d.state.world where
  world := hMatched.world hOpen
  seen := hMatched.seen
  cancelled := hMatched.cancelled

theorem Matched.idle
    (hMatched : Matched line fits line' fits' root alike c d)
    (hIdle : line.Idle c) :
    line'.Idle d := by
  unfold Line.Idle
  rw [hMatched.boxes_eq]
  exact hIdle

/- The same is seen of clients that match. -/
theorem Matched.account_eq
    (hMatched : Matched line fits line' fits' root alike c d)
    (result : Except Fault Unit) :
    Account.of result d = Account.of result c := by
  rcases hMatched.sound with ⟨keys, hSound, hSound'⟩
  apply Account.ext
  · rfl
  · funext key
    simp [Account.of, Registry.contains, Table.contains,
      hSound.tallied.usable, hSound'.tallied.usable, hMatched.table_eq]
  · exact Multiset.coe_eq_coe.mpr hMatched.cancelled.symm
  · exact Multiset.coe_eq_coe.mpr hMatched.seen.symm

/- Open clients match if their diaries are alike. -/
theorem Matched.of_diary
    {keys : List Key}
    (hSound : line.Sound fits root keys c)
    (hSound' : line'.Sound fits' root keys d)
    (hBoxes :
      line'.boxes d.state.transport = line.boxes c.state.transport)
    (hTable :
      ∀ key, d.registry.table.get? key = c.registry.table.get? key)
    (hOpen : c.state.closed = false)
    (hOpen' : d.state.closed = false)
    (hDiary : Diary.Alike alike c.state.world d.state.world) :
    Matched line fits line' fits' root alike c d where
  sound := ⟨keys, hSound, hSound'⟩
  boxes_eq := hBoxes
  table_eq := hTable
  closed_eq := hOpen'.trans hOpen.symm
  seen := hDiary.seen
  cancelled := hDiary.cancelled
  world := fun _ => hDiary.world

/- The subscriptions may be read in other orders on both sides. -/
theorem Matched.reordered
    {r r' : Registry H Nat}
    (hMatched : Matched line fits line' fits' root alike c d)
    (hReordered : c.registry.Reordered r)
    (hReordered' : d.registry.Reordered r') :
    Matched line fits line' fits' root alike
      { c with registry := r } { d with registry := r' } := by
  rcases hMatched.sound with ⟨keys, hSound, hSound'⟩
  refine { hMatched with sound := ⟨keys, ?_, ?_⟩, table_eq := ?_ }
  · exact { hSound with tallied := hSound.tallied.reordered hReordered }
  · exact { hSound' with tallied := hSound'.tallied.reordered hReordered' }
  · intro key
    change r'.table.get? key = r.table.get? key
    rw [Table.get?_eq_of_reordered hReordered.1,
      Table.get?_eq_of_reordered hReordered'.1]
    exact hMatched.table_eq key

/- A call that changes nothing. -/
theorem Matched.called
    (hMatched : Matched line fits line' fits' root alike c d)
    (hIdle : line.Idle c)
    (more : List H) :
    Called line fits line' fits' root alike
      ((line.boxes c.state.transport).map (·.handler) ++ more) c d where
  matched := hMatched
  thin := ⟨[], AllEmpty.thin hIdle []⟩
  quiet := fun _ => hIdle
  handlers := List.sublist_append_left _ _

/- A call that puts a subscription in, with a box behind some others. -/
theorem Matched.installed
    {c' : Client H Nat τ (Diary H ω)}
    {d' : Client H Nat τ' (Diary H ω)}
    {keys : List Key}
    {key : Key}
    {handler : H}
    {boxes : List (Box H)}
    (hMatched : Matched line fits line' fits' root alike c d)
    (hSound : line.Sound fits root keys c')
    (hSound' : line'.Sound fits' root keys d')
    (hTable :
      c'.registry.table =
        c.registry.table.insert key
          ⟨handler, (line.boxes c.state.transport).length⟩)
    (hTable' :
      d'.registry.table =
        d.registry.table.insert key
          ⟨handler, (line'.boxes d.state.transport).length⟩)
    (hBoxes :
      line.boxes c'.state.transport = boxes ++ [.fresh handler])
    (hBoxes' :
      line'.boxes d'.state.transport = boxes ++ [.fresh handler])
    (hEmpty : AllEmpty boxes)
    (hHandlers :
      boxes.map (·.handler) =
        (line.boxes c.state.transport).map (·.handler))
    (hOpen : c'.state.closed = false)
    (hOpen' : d'.state.closed = false)
    (hDiary : Diary.Alike alike c'.state.world d'.state.world) :
    Called line fits line' fits' root alike
      ((line.boxes c.state.transport).map (·.handler) ++ [handler])
      c' d' := by
  constructor
  · apply Matched.of_diary hSound hSound'
    · rw [hBoxes, hBoxes']
    · intro other
      rw [hTable, hTable', Table.get?_insert, Table.get?_insert,
        hMatched.boxes_eq, hMatched.table_eq]
    · exact hOpen
    · exact hOpen'
    · exact hDiary
  · refine ⟨[], ?_⟩
    rw [hBoxes]
    exact (hEmpty.append_fresh handler).thin []
  · intro hClosed
    exact absurd (hOpen.symm.trans hClosed) Bool.false_ne_true
  · rw [hBoxes, List.map_append, hHandlers]
    exact List.Sublist.refl _

end Matched

------------------------------------------------------------
-- Calls on clients that match
------------------------------------------------------------

section Answers

variable {handlers : Handlers H ω}
variable {alike : ω → ω → Prop}
variable {limit : Nat}
variable {pong : Duration → Except Fault Unit}
variable {line : Line H τ (Diary H ω) ι}
variable {fits : List Key → τ → Prop}
variable {line' : Line H τ' (Diary H ω) ι'}
variable {fits' : List Key → τ' → Prop}
variable {root : String}
variable {c : Client H Nat τ (Diary H ω)}
variable {d : Client H Nat τ' (Diary H ω)}
variable (hSteady : handlers.Steady alike)
variable (hLawful : line.Lawful handlers.noted limit (fun _ => .ok ()) fits)
variable (hLawful' : line'.Lawful handlers.noted limit pong fits')
variable (hMatched : Matched line fits line' fits' root alike c d)

include hLawful hLawful' hMatched

/- The connection is checked, and answers pings on the second side. -/
theorem Matched.ping
    (patience : Duration) :
    d.ping line'.transport patience =
      (Ask.ping patience : Ask H).heard pong
        (c.ping line.transport patience) := by
  rcases hMatched.sound with ⟨keys, hSound, hSound'⟩
  unfold Client.ping
  rw [hMatched.closed_eq, hLawful.ping hSound.fits,
    hLawful'.ping hSound'.fits]
  cases c.state.closed with
  | true => rfl
  | false => rfl

variable (hIdle : line.Idle c)

include hIdle

/- A message is published. -/
theorem Matched.publish
    (hRoot : root = "" ∨ Topic.IsSubject root)
    (topic : String)
    {m : Message}
    (hSize : m.encode.length ≤ limit) :
    ∃ result c' d',
      c.publish line.transport topic m = (result, c') ∧
      d.publish line'.transport topic m = (result, d') ∧
      Called line fits line' fits' root alike
        ((line.boxes c.state.transport).map (·.handler) ++ []) c' d' := by
  rcases hMatched.sound with ⟨keys, hSound, hSound'⟩
  have hSame := hMatched.called hIdle []
  cases hCheck : m.checkFor topic with
  | error fault =>
      refine ⟨.error fault, c, d, ?_, ?_, hSame⟩
      · simp [Client.publish, hCheck]
      · simp [Client.publish, hCheck]
  | ok checked =>
      cases hOpen : c.state.closed with
      | true =>
          refine ⟨.error .closed, c, d, ?_, ?_, hSame⟩
          · simp [Client.publish, hCheck, hOpen]
          · simp [Client.publish, hCheck, hMatched.closed_eq, hOpen]
      | false =>
          have hOpen' := hMatched.closed_eq.trans hOpen
          cases hBuild : Topic.build root topic m.subtopic with
          | error fault =>
              refine ⟨.error fault, c, d, ?_, ?_, hSame⟩
              · simp [Client.publish, hCheck, hOpen,
                  hLawful.ready hSound.fits, hSound.root_eq, hBuild]
              · simp [Client.publish, hCheck, hOpen',
                  hLawful'.ready hSound'.fits, hSound'.root_eq, hBuild]
          | ok subject =>
              have hSubject := Topic.isSubject_of_build hRoot hBuild
              have hEmpty : AllEmpty (line.boxes c.state.transport) := hIdle
              rcases hSound.publish_sent hLawful hOpen hEmpty hCheck
                  (hSound.root_eq.symm ▸ hBuild) hSubject hSize with
                ⟨c', hCall, hSoundC, hRegistry, hBoxes, hOpenC, hWorld⟩
              rcases hSound'.publish_sent hLawful' hOpen'
                  (hMatched.boxes_eq.symm ▸ hEmpty) hCheck
                  (hSound'.root_eq.symm ▸ hBuild) hSubject hSize with
                ⟨d', hCall', hSoundD, hRegistry', hBoxes', hOpenD, hWorld'⟩
              refine ⟨_, c', d', hCall, hCall', ?_, ⟨m.encode, ?_⟩, ?_, ?_⟩
              · apply Matched.of_diary hSoundC hSoundD
                · rw [hBoxes, hBoxes', hMatched.boxes_eq]
                · intro key
                  rw [hRegistry, hRegistry']
                  exact hMatched.table_eq key
                · exact hOpenC
                · exact hOpenD
                · rw [hWorld, hWorld']
                  exact hMatched.diary hOpen
              · rw [hBoxes]
                exact hEmpty.post_thin subject m.encode keys
              · intro hClosed
                exact absurd (hOpenC.symm.trans hClosed) Bool.false_ne_true
              · rw [hBoxes, handlers_post _ _ hSound.tallied.length,
                  List.append_nil]

variable [DecidableEq H]

/- A handler is subscribed where there is no other. -/
theorem Matched.subscribe_free
    {key : Key}
    (hOpen : c.state.closed = false)
    (hCheck : key.check = .ok ())
    (hPattern : Topic.IsPattern key.topic)
    (hClient : '\x00' ∉ key.client.toList)
    (hFree : c.registry.table.get? key = none)
    (handler : H) :
    ∃ result c' d',
      c.subscribe line.transport handlers.noted key handler =
        (result, c') ∧
      d.subscribe line'.transport handlers.noted key handler =
        (result, d') ∧
      Called line fits line' fits' root alike
        ((line.boxes c.state.transport).map (·.handler) ++ [handler])
        c' d' := by
  rcases hMatched.sound with ⟨keys, hSound, hSound'⟩
  have hOpen' := hMatched.closed_eq.trans hOpen
  have hFree' := (hMatched.table_eq key).trans hFree
  rcases hSound.subscribe_free hLawful hOpen hCheck hPattern hClient
      hFree handler with
    ⟨c', hCall, hSoundC, hTable, hBoxes, hOpenC, hWorld⟩
  rcases hSound'.subscribe_free hLawful' hOpen' hCheck hPattern hClient
      hFree' handler with
    ⟨d', hCall', hSoundD, hTable', hBoxes', hOpenD, hWorld'⟩
  refine ⟨_, c', d', hCall, hCall', ?_⟩
  apply hMatched.installed hSoundC hSoundD hTable hTable' hBoxes
    (hMatched.boxes_eq ▸ hBoxes') hIdle rfl hOpenC hOpenD
  rw [hWorld, hWorld']
  exact hMatched.diary hOpen

/- All subscriptions are given up. -/
theorem Matched.close :
    ∃ result c' d',
      c.close line.transport handlers.noted = (result, c') ∧
      d.close line'.transport handlers.noted = (result, d') ∧
      Called line fits line' fits' root alike
        ((line.boxes c.state.transport).map (·.handler) ++ []) c' d' := by
  cases hOpen : c.state.closed with
  | true =>
      exact ⟨_, c, d, Client.close_closed hOpen,
        Client.close_closed (hMatched.closed_eq.trans hOpen),
        hMatched.called hIdle _⟩
  | false =>
      rcases hMatched.sound with ⟨keys, hSound, hSound'⟩
      have hEmpty : AllEmpty (line.boxes c.state.transport) := hIdle
      rcases hSound.close_open hLawful hOpen hEmpty with
        ⟨c', hCall, hSoundC, hTable, hBoxes, hClosedC, hWorld⟩
      rcases hSound'.close_open hLawful' (hMatched.closed_eq.trans hOpen)
          (hMatched.boxes_eq.symm ▸ hEmpty) with
        ⟨d', hCall', hSoundD, hTable', hBoxes', hClosedD, hWorld'⟩
      have hEmptyC : line.Idle c' := by
        intro box hMember
        rw [hBoxes] at hMember
        rcases List.mem_map.mp hMember with ⟨old, hOld, rfl⟩
        exact hEmpty old hOld
      -- The same handlers are cancelled on both sides, in any order.
      have hGiven :
          (c.registry.table.entries.map (·.2.handler)).Perm
            (d.registry.table.entries.map (·.2.handler)) := by
        have hEntries :
            c.registry.table.entries.Perm d.registry.table.entries := by
          apply Table.entries_perm d.registry.table.entries_nodup
          intro key value
          rw [Table.mem_entries_iff, hMatched.table_eq]
        exact hEntries.map _
      rcases handlers.cancelAll_noted
          (c.registry.table.entries.map (·.2.handler)) c.state.world with
        ⟨hSeen, hCancelled⟩
      rcases handlers.cancelAll_noted
          (d.registry.table.entries.map (·.2.handler)) d.state.world with
        ⟨hSeen', hCancelled'⟩
      refine ⟨_, c', d', hCall, hCall', ?_, ⟨[], hEmptyC.thin []⟩,
        fun _ => hEmptyC, ?_⟩
      · constructor
        · exact ⟨keys, hSoundC, hSoundD⟩
        · rw [hBoxes, hBoxes', hMatched.boxes_eq]
        · intro key
          rw [hTable, hTable']
        · exact hClosedD.trans hClosedC.symm
        · rw [hWorld, hWorld', hSeen, hSeen']
          exact hMatched.seen
        · rw [hWorld, hWorld', hCancelled, hCancelled']
          exact hMatched.cancelled.append hGiven
        · intro hOpenC
          exact absurd (hOpenC.symm.trans hClosedC) Bool.false_ne_true
      · rw [hBoxes, List.map_map, List.append_nil]
        exact List.Sublist.refl _

include hSteady

/- A handler takes the place of another, if that is cancelled. -/
theorem Matched.subscribe_taken
    {key : Key}
    {old : Subscription H Nat}
    (hOpen : c.state.closed = false)
    (hCheck : key.check = .ok ())
    (hPattern : Topic.IsPattern key.topic)
    (hClient : '\x00' ∉ key.client.toList)
    (hTaken : c.registry.table.get? key = some old)
    (handler : H) :
    ∃ result c' d',
      c.subscribe line.transport handlers.noted key handler =
        (result, c') ∧
      d.subscribe line'.transport handlers.noted key handler =
        (result, d') ∧
      Called line fits line' fits' root alike
        ((line.boxes c.state.transport).map (·.handler) ++ [handler])
        c' d' := by
  rcases hMatched.sound with ⟨keys, hSound, hSound'⟩
  have hOpen' := hMatched.closed_eq.trans hOpen
  have hTaken' := (hMatched.table_eq key).trans hTaken
  have hEmpty : AllEmpty (line.boxes c.state.transport) := hIdle
  rcases hSteady.noted.cancelled old.handler (hMatched.diary hOpen) with
    ⟨hOutcome, hDiary⟩
  rcases hCancel : handlers.noted.cancel old.handler c.state.world with
    ⟨outcome, world⟩
  rcases hCancel' : handlers.noted.cancel old.handler d.state.world with
    ⟨outcome', world'⟩
  rw [hCancel, hCancel'] at hOutcome hDiary
  cases hOutcome
  cases outcome with
  | error detail =>
      refine ⟨_, _, _,
        Client.subscribe_uncancelled hOpen hSound.tallied.usable hCheck
          hTaken hCancel,
        Client.subscribe_uncancelled hOpen' hSound'.tallied.usable hCheck
          hTaken' hCancel', ?_⟩
      have hStill :
          Matched line fits line' fits' root alike
            (c.withWorld world) (d.withWorld world') :=
        Matched.of_diary
          ⟨hSound.root_eq, hSound.fits, hSound.tallied⟩
          ⟨hSound'.root_eq, hSound'.fits, hSound'.tallied⟩
          hMatched.boxes_eq hMatched.table_eq hOpen hOpen' hDiary
      exact hStill.called hIdle _
  | ok done =>
      have hEmpty' := hMatched.boxes_eq.symm ▸ hEmpty
      rcases hSound.subscribe_taken hLawful hOpen hEmpty hCheck hPattern
          hClient hTaken hCancel handler with
        ⟨c', hCall, hSoundC, hTable, hBoxes, hOpenC, rfl⟩
      rcases hSound'.subscribe_taken hLawful' hOpen' hEmpty' hCheck hPattern
          hClient hTaken' hCancel' handler with
        ⟨d', hCall', hSoundD, hTable', hBoxes', hOpenD, rfl⟩
      refine ⟨_, c', d', hCall, hCall', ?_⟩
      exact hMatched.installed hSoundC hSoundD hTable hTable' hBoxes
        (hMatched.boxes_eq ▸ hBoxes') (hEmpty.modify_shut old.binding)
        (handlers_modify_shut _ _) hOpenC hOpenD hDiary

/- A handler is subscribed. -/
theorem Matched.subscribe
    {key : Key}
    (hPattern : key.topic = "" ∨ Topic.IsPattern key.topic)
    (hClient : '\x00' ∉ key.client.toList)
    (handler : H) :
    ∃ result c' d',
      c.subscribe line.transport handlers.noted key handler =
        (result, c') ∧
      d.subscribe line'.transport handlers.noted key handler =
        (result, d') ∧
      Called line fits line' fits' root alike
        ((line.boxes c.state.transport).map (·.handler) ++ [handler])
        c' d' := by
  cases hOpen : c.state.closed with
  | true =>
      exact ⟨_, c, d, Client.subscribe_closed hOpen,
        Client.subscribe_closed (hMatched.closed_eq.trans hOpen),
        hMatched.called hIdle _⟩
  | false =>
      cases hCheck : key.check with
      | error fault =>
          exact ⟨_, c, d, Client.subscribe_refused hOpen hCheck,
            Client.subscribe_refused (hMatched.closed_eq.trans hOpen)
              hCheck,
            hMatched.called hIdle _⟩
      | ok checked =>
          have hWell : Topic.IsPattern key.topic := by
            rcases hPattern with hNone | hWell
            · unfold Key.check at hCheck
              rw [hNone] at hCheck
              split at hCheck
              · exact absurd hCheck nofun
              · exact absurd hCheck nofun
            · exact hWell
          cases hFound : c.registry.table.get? key with
          | none =>
              exact hMatched.subscribe_free hLawful hLawful' hIdle
                hOpen hCheck hWell hClient hFound handler
          | some old =>
              exact hMatched.subscribe_taken hSteady hLawful hLawful' hIdle
                hOpen hCheck hWell hClient hFound handler

/- A subscription is given up. -/
theorem Matched.unsubscribe
    (key : Key) :
    ∃ result c' d',
      c.unsubscribe line.transport handlers.noted key = (result, c') ∧
      d.unsubscribe line'.transport handlers.noted key = (result, d') ∧
      Called line fits line' fits' root alike
        ((line.boxes c.state.transport).map (·.handler) ++ []) c' d' := by
  cases hOpen : c.state.closed with
  | true =>
      exact ⟨_, c, d, Client.unsubscribe_closed hOpen,
        Client.unsubscribe_closed (hMatched.closed_eq.trans hOpen),
        hMatched.called hIdle _⟩
  | false =>
      have hOpen' := hMatched.closed_eq.trans hOpen
      rcases hMatched.sound with ⟨keys, hSound, hSound'⟩
      cases hCheck : key.check with
      | error fault =>
          exact ⟨_, c, d, Client.unsubscribe_refused hOpen hCheck,
            Client.unsubscribe_refused hOpen' hCheck,
            hMatched.called hIdle _⟩
      | ok checked =>
          cases hFound : c.registry.table.get? key with
          | none =>
              exact ⟨_, c, d,
                Client.unsubscribe_free hOpen hSound.tallied.usable hCheck
                  hFound,
                Client.unsubscribe_free hOpen' hSound'.tallied.usable hCheck
                  ((hMatched.table_eq key).trans hFound),
                hMatched.called hIdle _⟩
          | some old =>
              have hEmpty : AllEmpty (line.boxes c.state.transport) := hIdle
              have hEmpty' := hMatched.boxes_eq.symm ▸ hEmpty
              rcases hSound.unsubscribe_taken hLawful hOpen hEmpty hCheck
                  hFound with
                ⟨c', hCall, hSoundC, hTable, hBoxes, hOpenC, hWorld⟩
              rcases hSound'.unsubscribe_taken hLawful' hOpen' hEmpty' hCheck
                  ((hMatched.table_eq key).trans hFound) with
                ⟨d', hCall', hSoundD, hTable', hBoxes', hOpenD, hWorld'⟩
              rcases hSteady.noted.cancelled old.handler
                  (hMatched.diary hOpen) with
                ⟨hOutcome, hDiary⟩
              rw [← hOutcome] at hCall'
              refine ⟨_, c', d', hCall, hCall', ?_, ⟨[], ?_⟩, ?_, ?_⟩
              · apply Matched.of_diary hSoundC hSoundD
                · rw [hBoxes, hBoxes', hMatched.boxes_eq]
                · intro other
                  rw [hTable, hTable', Table.get?_erase, Table.get?_erase,
                    hMatched.table_eq]
                · exact hOpenC
                · exact hOpenD
                · rw [hWorld, hWorld']
                  exact hDiary
              · rw [hBoxes]
                exact (hEmpty.modify_shut old.binding).thin []
              · intro hClosed
                exact absurd (hOpenC.symm.trans hClosed) Bool.false_ne_true
              · rw [hBoxes, handlers_modify_shut, List.append_nil]

/- Any call at all, with answers of their own to pings. -/
theorem Matched.answer
    (hRoot : root = "" ∨ Topic.IsSubject root)
    {ask : Ask H}
    (hAllowed : ask.Allowed limit) :
    ∃ result c' d',
      ask.answer line.transport handlers.noted c = (result, c') ∧
      ask.answer line'.transport handlers.noted d =
        (ask.heard pong result, d') ∧
      Called line fits line' fits' root alike
        ((line.boxes c.state.transport).map (·.handler) ++
          ask.handler?.toList)
        c' d' := by
  cases ask with
  | publish topic m =>
      exact hMatched.publish hLawful hLawful' hIdle hRoot topic hAllowed
  | subscribe key handler =>
      exact hMatched.subscribe hSteady hLawful hLawful' hIdle hAllowed.1
        hAllowed.2 handler
  | unsubscribe key =>
      exact hMatched.unsubscribe hSteady hLawful hLawful' hIdle key
  | ping patience =>
      refine ⟨_, c, d, rfl, ?_, hMatched.called hIdle _⟩
      simp only [Ask.answer, hMatched.ping hLawful hLawful']
  | close => exact hMatched.close hLawful hLawful' hIdle

end Answers

------------------------------------------------------------
-- Deliveries to clients that match
------------------------------------------------------------

section Settled

variable {handlers : Handlers H ω}
variable {alike : ω → ω → Prop}
variable {limit : Nat}
variable {pong : Duration → Except Fault Unit}
variable {line : Line H τ (Diary H ω) ι}
variable {fits : List Key → τ → Prop}
variable {line' : Line H τ' (Diary H ω) ι'}
variable {fits' : List Key → τ' → Prop}
variable {root : String}
variable {known : List H}
variable {c : Client H Nat τ (Diary H ω)}
variable {d : Client H Nat τ' (Diary H ω)}

/- Boxes are tallied as before after a round. -/
theorem Tallied.receive
    {keys : List Key}
    {r : Registry H Nat}
    {boxes : List (Box H)}
    (hTallied : Tallied keys r boxes)
    (handlers : Handlers H ω)
    (octets : Octets)
    (w : ω) :
    Tallied keys r (boxes.map (Box.receive handlers octets w)) := by
  apply hTallied.keep (List.length_map _)
  intro n box box' hAt hAt'
  rw [List.getElem?_map, hAt] at hAt'
  cases hAt'
  unfold Box.receive
  split
  · exact ⟨rfl, id⟩
  · exact ⟨rfl, fun hLive => (Bool.and_eq_true_iff.mp hLive).1⟩

/-
  Clients match again once all has been delivered, in whatever
  order that was.
-/
theorem Called.settled
    (hCalled : Called line fits line' fits' root alike known c d)
    (hSteady : handlers.Steady alike)
    (hLawful : line.Lawful handlers.noted limit (fun _ => .ok ()) fits)
    (hLawful' : line'.Lawful handlers.noted limit pong fits')
    (hIndependent : known.Pairwise (handlers.Independent alike))
    {places : List ι}
    {places' : List ι'}
    {c' : Client H Nat τ (Diary H ω)}
    {d' : Client H Nat τ' (Diary H ω)}
    (hDelivered : line.deliverAll handlers.noted places c = c')
    (hDelivered' : line'.deliverAll handlers.noted places' d = d')
    (hIdle : line.Idle c')
    (hIdle' : line'.Idle d') :
    Matched line fits line' fits' root alike c' d' ∧
      (line.boxes c'.state.transport).map (·.handler) =
        (line.boxes c.state.transport).map (·.handler) := by
  subst hDelivered hDelivered'
  have hMatched := hCalled.matched
  rcases hMatched.sound with ⟨keys, hSound, hSound'⟩
  cases hOpen : c.state.closed with
  | true =>
      have hQuiet := hCalled.quiet hOpen
      rw [hLawful.deliverAll_idle hSound.fits hQuiet,
        hLawful'.deliverAll_idle hSound'.fits (hMatched.idle hQuiet)]
      exact ⟨hMatched, rfl⟩
  | false =>
      rcases hCalled.thin with ⟨octets, hThin⟩
      have hThin' := hMatched.boxes_eq.symm ▸ hThin
      have hApart :
          ((line.boxes c.state.transport).map (·.handler)).Pairwise
            (handlers.noted.Independent (Diary.Alike alike)) :=
        (hIndependent.sublist hCalled.handlers).imp fun h => h.noted
      have hApart' := hMatched.boxes_eq.symm ▸ hApart
      rcases hLawful.deliverAll_settles hSteady.noted hSound.fits hThin
          hApart places hIdle with
        ⟨b, w, hAll, hFits, hBoxes, hWorld⟩
      rcases hLawful'.deliverAll_settles hSteady.noted hSound'.fits hThin'
          hApart' places' hIdle' with
        ⟨b', w', hAll', hFits', hBoxes', hWorld'⟩
      have hDiary := hMatched.diary hOpen
      -- Both sides settle the same boxes in worlds that are alike.
      have hSameBoxes : line'.boxes b' = line.boxes b := by
        rw [hBoxes, hBoxes', hMatched.boxes_eq]
        apply List.map_congr_left
        intro box _
        unfold Box.receive
        rw [(hSteady.noted.receive box.handler octets hDiary).1]
      have hSameWorld : Diary.Alike alike w w' := by
        have hEquivalence := hSteady.noted.equivalence
        rw [hMatched.boxes_eq] at hWorld'
        have hRound :=
          hSteady.noted.receiveAll_alike octets
            (receivers (line.boxes c.state.transport)) hDiary
        exact hEquivalence.trans hWorld
          (hEquivalence.trans hRound (hEquivalence.symm hWorld'))
      rw [hAll, hAll']
      constructor
      · refine Matched.of_diary ⟨hSound.root_eq, hFits, ?_⟩
          ⟨hSound'.root_eq, hFits', ?_⟩ hSameBoxes hMatched.table_eq hOpen
          (hMatched.closed_eq.trans hOpen) hSameWorld
        · change Tallied keys c.registry (line.boxes b)
          rw [hBoxes]
          exact hSound.tallied.receive _ _ _
        · change Tallied keys d.registry (line'.boxes b')
          rw [hBoxes']
          exact hSound'.tallied.receive _ _ _
      · change (line.boxes b).map (·.handler) = _
        rw [hBoxes, List.map_map]
        apply List.map_congr_left
        intro box _
        simp only [Function.comp_apply, Box.receive]
        split
        · rfl
        · rfl

end Settled

------------------------------------------------------------
-- Conversations with clients that match
------------------------------------------------------------

/- The handlers of some calls are those of the first, then the others. -/
theorem Ask.handlers_cons
    (ask : Ask H)
    (asks : List (Ask H)) :
    (ask :: asks).filterMap Ask.handler? =
      ask.handler?.toList ++ asks.filterMap Ask.handler? := by
  cases hHandler : ask.handler? with
  | none => simp [hHandler]
  | some handler => simp [hHandler]

section Conversations

variable [DecidableEq H]
variable {handlers : Handlers H ω}
variable {alike : ω → ω → Prop}
variable {limit : Nat}
variable {pong : Duration → Except Fault Unit}
variable {line : Line H τ (Diary H ω) ι}
variable {fits : List Key → τ → Prop}
variable {line' : Line H τ' (Diary H ω) ι'}
variable {fits' : List Key → τ' → Prop}
variable {root : String}
variable {ask : Ask H}
variable {asks : List (Ask H)}
variable {c : Client H Nat τ (Diary H ω)}
variable {d : Client H Nat τ' (Diary H ω)}
variable (hSteady : handlers.Steady alike)
variable (hLawful : line.Lawful handlers.noted limit (fun _ => .ok ()) fits)
variable (hLawful' : line'.Lawful handlers.noted limit pong fits')
variable (hRoot : root = "" ∨ Topic.IsSubject root)

include hSteady hLawful hLawful' hRoot

/- An exchange on both sides leaves clients that match. -/
theorem Matched.exchange
    {result result' : Except Fault Unit}
    {c' : Client H Nat τ (Diary H ω)}
    {d' : Client H Nat τ' (Diary H ω)}
    (hMatched : Matched line fits line' fits' root alike c d)
    (hIdle : line.Idle c)
    (hAllowed : ask.Allowed limit)
    (hIndependent :
      ((line.boxes c.state.transport).map (·.handler) ++
        ask.handler?.toList).Pairwise (handlers.Independent alike))
    (hExchange : line.Exchange handlers.noted c ask result c')
    (hExchange' : line'.Exchange handlers.noted d ask result' d') :
    result' = ask.heard pong result ∧
      Matched line fits line' fits' root alike c' d' ∧
      line.Idle c' ∧
      ((line.boxes c'.state.transport).map (·.handler)).Sublist
        ((line.boxes c.state.transport).map (·.handler) ++
          ask.handler?.toList) := by
  cases hExchange with
  | settled hReordered hAnswer places hDelivered hIdleC =>
    cases hExchange' with
    | settled hReordered' hAnswer' places' hDelivered' hIdleD =>
        rcases (hMatched.reordered hReordered hReordered').answer
            hSteady hLawful hLawful' hIdle hRoot hAllowed with
          ⟨answer, called, called', hCall, hCall', hCalled⟩
        cases hAnswer.symm.trans hCall
        cases hAnswer'.symm.trans hCall'
        rcases hCalled.settled hSteady hLawful hLawful' hIndependent
            hDelivered hDelivered' hIdleC hIdleD with
          ⟨hMatched', hHandlers⟩
        refine ⟨rfl, hMatched', hIdleC, ?_⟩
        rw [hHandlers]
        exact hCalled.handlers

/- There is an exchange on both sides. -/
theorem Matched.exists_exchange
    (hMatched : Matched line fits line' fits' root alike c d)
    (hIdle : line.Idle c)
    (hAllowed : ask.Allowed limit) :
    ∃ result c' result' d',
      line.Exchange handlers.noted c ask result c' ∧
      line'.Exchange handlers.noted d ask result' d' := by
  rcases hMatched.answer hSteady hLawful hLawful' hIdle hRoot hAllowed with
    ⟨result, called, called', hCall, hCall', hCalled⟩
  rcases hCalled.matched.sound with ⟨keys, hSound, hSound'⟩
  rcases hCalled.thin with ⟨octets, hThin⟩
  rcases hLawful.exists_idle hSound.fits hThin with ⟨places, hIdleC⟩
  rcases hLawful'.exists_idle hSound'.fits
      (hCalled.matched.boxes_eq.symm ▸ hThin) with
    ⟨places', hIdleD⟩
  exact ⟨result, _, ask.heard pong result, _,
    .settled (Registry.reordered_refl _) hCall places rfl hIdleC,
    .settled (Registry.reordered_refl _) hCall' places' rfl hIdleD⟩

/-
  Conversations with the same calls are accounted for alike,
  but for the answers to pings.
-/
theorem Matched.converses
    (hMatched : Matched line fits line' fits' root alike c d)
    (hIdle : line.Idle c)
    (hAllowed : ∀ ask ∈ asks, ask.Allowed limit)
    (hIndependent :
      ((line.boxes c.state.transport).map (·.handler) ++
        asks.filterMap Ask.handler?).Pairwise
        (handlers.Independent alike))
    {accounts accounts' : List (Account H)}
    (hConverses : line.Converses handlers c asks accounts)
    (hConverses' : line'.Converses handlers d asks accounts') :
    accounts' = List.zipWith (Account.heard pong) asks accounts := by
  induction hConverses generalizing d accounts' with
  | nothing c =>
      cases hConverses' with
      | nothing d => rfl
  | @call c c' ask asks result accounts hExchange hRest ih =>
      cases hConverses' with
      | @call _ d' _ _ result' accounts' hExchange' hRest' =>
          rw [Ask.handlers_cons, ← List.append_assoc] at hIndependent
          rcases hMatched.exchange hSteady hLawful hLawful' hRoot hIdle
              (hAllowed ask List.mem_cons_self)
              (hIndependent.sublist (List.sublist_append_left _ _))
              hExchange hExchange' with
            ⟨rfl, hMatched', hIdle', hHandlers⟩
          have hAccounts :=
            ih hMatched' hIdle'
              (fun other hOther =>
                hAllowed other (List.mem_cons_of_mem ask hOther))
              (hIndependent.sublist (hHandlers.append_right _)) hRest'
          rw [hAccounts, hMatched'.account_eq]
          rfl

/- There are conversations on both sides, whatever is asked. -/
theorem Matched.exists_converses
    (hMatched : Matched line fits line' fits' root alike c d)
    (hIdle : line.Idle c)
    (hAllowed : ∀ ask ∈ asks, ask.Allowed limit)
    (hIndependent :
      ((line.boxes c.state.transport).map (·.handler) ++
        asks.filterMap Ask.handler?).Pairwise
        (handlers.Independent alike)) :
    ∃ accounts accounts',
      line.Converses handlers c asks accounts ∧
      line'.Converses handlers d asks accounts' := by
  induction asks generalizing c d with
  | nil => exact ⟨[], [], .nothing c, .nothing d⟩
  | cons ask asks ih =>
      have hAllowedNow := hAllowed ask List.mem_cons_self
      rw [Ask.handlers_cons, ← List.append_assoc] at hIndependent
      rcases hMatched.exists_exchange hSteady hLawful hLawful' hRoot hIdle
          hAllowedNow with
        ⟨result, c', result', d', hExchange, hExchange'⟩
      rcases hMatched.exchange hSteady hLawful hLawful' hRoot hIdle
          hAllowedNow
          (hIndependent.sublist (List.sublist_append_left _ _))
          hExchange hExchange' with
        ⟨-, hMatched', hIdle', hHandlers⟩
      rcases ih hMatched' hIdle'
          (fun other hOther =>
            hAllowed other (List.mem_cons_of_mem ask hOther))
          (hIndependent.sublist (hHandlers.append_right _)) with
        ⟨accounts, accounts', hRest, hRest'⟩
      exact ⟨_, _, .call hExchange hRest, .call hExchange' hRest'⟩

end Conversations

end Courier
