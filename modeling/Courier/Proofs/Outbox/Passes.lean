import Courier.Outbox.ScriptedStore
import Courier.Proofs.Outbox.Replay
import Courier.Proofs.Service.Transparency
import Mathlib.Data.List.TakeWhile

/-
  This file says what one pass over an outbox comes to while
  no other call takes steps.

  The answers of the store decide.  An item is settled if the
  store accepted or refused it.  A pass that reaches the store
  settles the items that come before the first one at which
  the store goes away; that item and those behind it wait as
  before, and nothing makes way for them.

  Key definitions include:
    * `Store.answered`, `Store.offered`
    * `Store.settled`, `Store.accepted`
    * `Outbox.FlushesAlone`

  Main statements:
    * `Flushing.steps_offering`
    * `Flushing.run_of_unreached`, `Flushing.run_of_reached`
    * `Outbox.flushed_alone`
-/

namespace Courier

------------------------------------------------------------
-- Items that are offered in turn
------------------------------------------------------------

namespace Store

variable {α σ : Type}

/- Items that are offered one after the other, each with its answer. -/
def answered
    (store : Store α σ)
    (now : Instant) :
    List α → σ → List (α × Except StoreFault String)
  | [], _ => []
  | item :: rest, s =>
      (item, (store.append now item s).1)
        :: answered store now rest (store.append now item s).2

/- The state of a store to which items were offered. -/
def offered
    (store : Store α σ)
    (now : Instant)
    (items : List α)
    (s : σ) : σ :=
  items.foldl (fun s item => (store.append now item s).2) s

/- The items that are accepted or refused before the store goes away. -/
def settled
    (store : Store α σ)
    (now : Instant)
    (items : List α)
    (s : σ) : List (α × Except StoreFault String) :=
  (store.answered now items s).takeWhile fun entry =>
    Scripted.settles entry.2

/- Those of them that are accepted. -/
def accepted
    (store : Store α σ)
    (now : Instant)
    (items : List α)
    (s : σ) : List α :=
  ((store.settled now items s).filter (·.2.isOk)).map (·.1)

/- Those of them that are refused. -/
def refused
    (store : Store α σ)
    (now : Instant)
    (items : List α)
    (s : σ) : List α :=
  ((store.settled now items s).filter fun entry => !entry.2.isOk).map (·.1)

section Settled

variable (store : Store α σ)
variable (now : Instant)

/- An item is settled ahead of those behind it, if the store stays. -/
theorem settled_cons
    (item : α)
    (rest : List α)
    (s : σ) :
    store.settled now (item :: rest) s =
      if Scripted.settles (store.append now item s).1 then
        (item, (store.append now item s).1)
          :: store.settled now rest (store.append now item s).2
      else
        [] := by
  rw [settled, answered, List.takeWhile_cons]
  rfl

/- Every item has an answer. -/
theorem map_fst_answered
    (items : List α)
    (s : σ) :
    (store.answered now items s).map (·.1) = items := by
  induction items generalizing s with
  | nil => rfl
  | cons item rest ih => simp [answered, ih]

/- The settled items come first. -/
theorem map_fst_settled
    (items : List α)
    (s : σ) :
    (store.settled now items s).map (·.1) =
      items.take (store.settled now items s).length := by
  have hPrefix :
      (store.settled now items s).map (·.1) <+: items := by
    have hTaken :
        store.settled now items s <+: store.answered now items s :=
      List.takeWhile_prefix _
    simpa [map_fst_answered] using hTaken.map (·.1)
  simpa using List.prefix_iff_eq_take.mp hPrefix

/- There are no more of them than there are items. -/
theorem length_settled_le
    (items : List α)
    (s : σ) :
    (store.settled now items s).length ≤ items.length := by
  have hLength := congrArg List.length (store.map_fst_settled now items s)
  simp only [List.length_map, List.length_take] at hLength
  omega

/- A settled item was either accepted or refused. -/
theorem length_accepted_add_refused
    (items : List α)
    (s : σ) :
    (store.accepted now items s).length
        + (store.refused now items s).length =
      (store.settled now items s).length := by
  simp only [accepted, refused, List.length_map]
  exact (List.length_eq_length_filter_add _).symm

/- All items are settled by a store that does not go away. -/
theorem length_settled_of_stays
    {items : List α}
    {s : σ}
    (hStays :
      ∀ entry ∈ store.answered now items s,
        Scripted.settles entry.2 = true) :
    (store.settled now items s).length = items.length := by
  have hAll := congrArg List.length (map_fst_answered store now items s)
  rw [List.length_map] at hAll
  rw [settled, List.takeWhile_eq_self_iff.mpr hStays, hAll]

end Settled

/-
  The entries of a store that went through some items are those
  before, and behind them the items that it accepted.
-/
theorem AppendsLast.entries_offered
    {store : Store α σ}
    {entries : σ → List α}
    (hStore : store.AppendsLast entries)
    (now : Instant)
    (items : List α)
    (s : σ) :
    entries
        (store.offered now
          (items.take ((store.settled now items s).length + 1)) s) =
      entries s ++ store.accepted now items s := by
  induction items generalizing s with
  | nil => simp [offered, accepted, settled, answered]
  | cons item rest ih =>
      have hRest := ih (store.append now item s).2
      simp only [offered, accepted] at hRest ⊢
      cases hAnswer : (store.append now item s).1 with
      | ok id =>
          have hAdded := hStore.added _ _ _ _ hAnswer
          simp [settled_cons, hAnswer, Scripted.settles, hRest, hAdded,
            Except.isOk, Except.toBool]
      | error fault =>
          have hFailed := hStore.failed _ _ _ _ hAnswer
          cases hConnection : fault.isConnection with
          | true =>
              simp [settled_cons, hAnswer, Scripted.settles, hConnection,
                hFailed]
          | false =>
              simp [settled_cons, hAnswer, Scripted.settles, hConnection,
                hRest, hFailed, Except.isOk, Except.toBool]

/- The uses of a store that is watched while items are offered. -/
theorem offered_watched
    (store : Store α σ)
    (now : Instant)
    (items : List α)
    (s : Watched α σ) :
    store.watched.offered now items s =
      { inner := store.offered now items s.inner
        uses := s.uses ++ items.map (.append now) } := by
  induction items generalizing s with
  | nil => simp [offered]
  | cons item rest ih =>
      have hRest := ih (store.watched.append now item s).2
      simp only [offered, List.foldl_cons] at hRest ⊢
      rw [hRest]
      simp [watched]

/- A store settles the same items when it is watched. -/
theorem settled_watched
    (store : Store α σ)
    (now : Instant)
    (items : List α)
    (s : Watched α σ) :
    store.watched.settled now items s =
      store.settled now items s.inner := by
  induction items generalizing s with
  | nil => rfl
  | cons item rest ih =>
      rw [settled_cons, settled_cons, ih]
      rfl

end Store

------------------------------------------------------------
-- Passes
------------------------------------------------------------

namespace Flushing

variable {α σ : Type}
variable (store : Store α σ)
variable (limit : Duration)
variable (now : Instant)

/- The first of some steps comes ahead of the others. -/
theorem steps_succ
    (count : Nat)
    (f : Flushing α)
    (s : Shared α σ) :
    steps store limit now (count + 1) f s =
      steps store limit now count (f.step store limit now s).1
        (f.step store limit now s).2 :=
  rfl

/- Steps may be taken in two goes. -/
theorem steps_add
    (first more : Nat)
    (f : Flushing α)
    (s : Shared α σ) :
    steps store limit now (first + more) f s =
      steps store limit now more
        (steps store limit now first f s).1
        (steps store limit now first f s).2 := by
  induction first generalizing f s with
  | zero => simp [steps]
  | succ first ih =>
      rw [Nat.add_right_comm, steps_succ, steps_succ]
      exact ih _ _

/- A pass that is over takes no more steps. -/
theorem steps_done
    (count : Nat)
    (result : FlushResult)
    (s : Shared α σ) :
    steps store limit now count (done result) s = (done result, s) := by
  induction count with
  | zero => rfl
  | succ count ih => exact ih

/-
  A pass offers the items in hand up to the first one at which
  the store goes away, and is left with that one and those
  behind it.
-/
theorem steps_offering
    (tally : Tally)
    (batch : List α)
    (s : Shared α σ) :
    steps store limit now
        ((store.settled now batch s.store).length + 1)
        (offering tally batch) s =
      (requeueing
          { tally with
            published :=
              tally.published + (store.accepted now batch s.store).length
            dropped :=
              tally.dropped + (store.refused now batch s.store).length }
          (batch.drop (store.settled now batch s.store).length),
        { s with
          store :=
            store.offered now
              (batch.take ((store.settled now batch s.store).length + 1))
              s.store }) := by
  induction batch generalizing tally s with
  | nil => rfl
  | cons item rest ih =>
      have hItem := store.settled_cons now item rest s.store
      simp only [Store.accepted, Store.refused, Store.offered] at ih ⊢
      cases hAnswer : (store.append now item s.store).1 with
      | ok id =>
          have hStep :
              (offering tally (item :: rest)).step store limit now s =
                (offering
                    { tally with published := tally.published + 1 } rest,
                  { s with store := (store.append now item s.store).2 }) := by
            simp [step, hAnswer]
          have hRest :=
            ih { tally with published := tally.published + 1 }
              { s with store := (store.append now item s.store).2 }
          rw [hAnswer, Scripted.settles, if_pos rfl] at hItem
          rw [hItem, List.length_cons, steps_succ, hStep]
          rw [hRest]
          simp [Except.isOk, Except.toBool, Nat.add_assoc, Nat.add_comm 1]
      | error fault =>
          cases hConnection : fault.isConnection with
          | true =>
              simp [hItem, steps, step, hAnswer, Scripted.settles,
                hConnection]
          | false =>
              have hStep :
                  (offering tally (item :: rest)).step store limit now s =
                    (offering
                        { tally with dropped := tally.dropped + 1 } rest,
                      { s with
                        store := (store.append now item s.store).2 }) := by
                simp [step, hAnswer, hConnection]
              have hRest :=
                ih { tally with dropped := tally.dropped + 1 }
                  { s with store := (store.append now item s.store).2 }
              rw [hAnswer, Scripted.settles, hConnection,
                Bool.not_false, if_pos rfl] at hItem
              rw [hItem, List.length_cons, steps_succ, hStep]
              rw [hRest]
              simp [Except.isOk, Except.toBool, Nat.add_assoc,
                Nat.add_comm 1]

section Run

variable {s : Shared α σ}
variable {store limit}

/- A buffer with items is not empty. -/
theorem isEmpty_of_waiting
    (hWaiting : s.buffer.items ≠ []) :
    s.buffer.isEmpty = false := by
  simpa [Buffer.isEmpty] using hWaiting

/- A pass that does not reach the store leaves all items where they are. -/
theorem run_of_unreached
    (hWaiting : s.buffer.items ≠ [])
    {fault : StoreFault}
    (hVerdict : (store.check limit s.store).1 = .error fault) :
    run store limit now s =
      ({ FlushResult.idle with
          remaining := s.buffer.length
          skipped := true },
        { s with store := (store.check limit s.store).2 }) := by
  have hSteps :
      mostSteps s.buffer.length = 3 + (s.buffer.length + 3) := by
    unfold mostSteps
    omega
  have hSkipped :
      steps store limit now 3 starting s =
        (done
          { FlushResult.idle with
            remaining := s.buffer.length
            skipped := true },
          { s with store := (store.check limit s.store).2 }) := by
    simp [steps, step, isEmpty_of_waiting hWaiting, hVerdict]
  rw [run, hSteps, steps_add, hSkipped, steps_done]
  rfl

/-
  A pass that reaches the store settles the items up to the one
  at which the store goes away, and the others wait as before.
-/
theorem run_of_reached
    (hWaiting : s.buffer.items ≠ [])
    (hVerdict : (store.check limit s.store).1 = .ok ()) :
    let items := s.buffer.items
    let reached := (store.check limit s.store).2
    let count := (store.settled now items reached).length
    run store limit now s =
      ({ attempted := items.length
         published := (store.accepted now items reached).length
         dropped := (store.refused now items reached).length
         remaining := items.length - count
         skipped := false },
        { store := store.offered now (items.take (count + 1)) reached
          buffer := s.buffer.without count }) := by
  intro items reached count
  have hCount : count ≤ items.length :=
    store.length_settled_le now items reached
  have hSteps :
      mostSteps s.buffer.length =
        3 + ((count + 1) + (2 + (items.length - count))) := by
    simp only [mostSteps, Buffer.length]
    change items.length + 6 = _
    omega
  have hTaken :
      steps store limit now 3 starting s =
        (offering ⟨items.length, 0, 0⟩ items,
          { store := reached, buffer := s.buffer.takeAll.2 }) := by
    simp [steps, step, isEmpty_of_waiting hWaiting, hVerdict,
      Buffer.takeAll, items, reached]
  have hOffered :=
    steps_offering store limit now ⟨items.length, 0, 0⟩ items
      { store := reached, buffer := s.buffer.takeAll.2 }
  have hRequeued := Buffer.requeue_taken s.buffer count
  rw [run, hSteps, steps_add, hTaken, steps_add, hOffered]
  simp [steps_add, steps, step, hRequeued, steps_done, result,
    Buffer.length, count, items]

end Run

end Flushing

------------------------------------------------------------
-- Flushing an outbox
------------------------------------------------------------

namespace Outbox

variable {σ : Type}

/-
  What flushing an outbox comes to while nothing else happens
  on it.  The uses of its store are kept.
-/
structure FlushesAlone
    (store : Store Record σ)
    (now : Instant)
    (o : Outbox (Watched Record σ)) : Prop where
  /-
    Where the probe fails or is late nothing is appended, and the
    records wait as before.
  -/
  skipped :
    ∀ fault,
      (store.check o.probeTimeout o.shared.store.inner).1 =
          .error fault →
        (o.flush store.watched now).2.shared.store.uses =
            o.shared.store.uses ++ [.probe o.probeTimeout] ∧
          (o.flush store.watched now).2.shared.buffer =
            o.shared.buffer ∧
          (o.flush store.watched now).1 =
            { attempted := 0
              published := 0
              dropped := 0
              remaining := o.pending
              skipped := true }
  /-
    Otherwise the first records are settled, up to the one at
    which the store goes away.  They and that one are offered in
    order, and that one and those behind it wait as before.
  -/
  reached :
    (store.check o.probeTimeout o.shared.store.inner).1 = .ok () →
      let probed :=
        (store.check o.probeTimeout o.shared.store.inner).2
      let settled := store.settled now o.unpublished probed
      let count := settled.length
      (o.flush store.watched now).2.shared.store.uses =
          o.shared.store.uses ++
            .probe o.probeTimeout ::
              (o.unpublished.take (count + 1)).map (.append now) ∧
        settled.map (·.1) = o.unpublished.take count ∧
        (o.flush store.watched now).2.shared.buffer =
          o.shared.buffer.without count ∧
        (o.flush store.watched now).1 =
          { attempted := o.pending
            published := (store.accepted now o.unpublished probed).length
            dropped := (store.refused now o.unpublished probed).length
            remaining := o.pending - count
            skipped := false } ∧
        (store.accepted now o.unpublished probed).length
            + (store.refused now o.unpublished probed).length =
          count
  /- A store that appends at the end then has the accepted ones there. -/
  appended :
    ∀ entries,
      store.AppendsLast entries →
      (store.check o.probeTimeout o.shared.store.inner).1 = .ok () →
        entries (o.flush store.watched now).2.shared.store.inner =
          entries o.shared.store.inner ++
            store.accepted now o.unpublished
              (store.check o.probeTimeout o.shared.store.inner).2
  /- A store that does not go away leaves no record waiting. -/
  emptied :
    (store.check o.probeTimeout o.shared.store.inner).1 = .ok () →
    (∀ entry ∈
        store.answered now o.unpublished
          (store.check o.probeTimeout o.shared.store.inner).2,
      Scripted.settles entry.2 = true) →
      (o.flush store.watched now).2.unpublished = []
  /- Flushing does the same if the uses of the store are not kept. -/
  undisturbed :
    o.unwatched.flush store now =
      ((o.flush store.watched now).1,
        (o.flush store.watched now).2.unwatched)

section Flush

variable {store : Store Record σ}
variable {now : Instant}
variable {o : Outbox (Watched Record σ)}

/- The probe of a watched store is kept. -/
theorem check_watched
    (limit : Duration)
    (s : Watched Record σ) :
    store.watched.check limit s =
      ((store.check limit s.inner).1,
        { inner := (store.check limit s.inner).2
          uses := s.uses ++ [.probe limit] }) :=
  rfl

/- A flush that does not reach the store. -/
theorem flush_of_unreached
    (hWaiting : o.unpublished ≠ [])
    {fault : StoreFault}
    (hVerdict :
      (store.check o.probeTimeout o.shared.store.inner).1 =
        .error fault) :
    o.flush store.watched now =
      ({ FlushResult.idle with
          remaining := o.pending
          skipped := true },
        { o with
          shared :=
            { o.shared with
              store :=
                (store.watched.check o.probeTimeout o.shared.store).2 } }) := by
  have hWatched :
      (store.watched.check o.probeTimeout o.shared.store).1 =
        .error fault := hVerdict
  simp only [flush, Flushing.run_of_unreached now hWaiting hWatched]
  rfl

/-
  A flush that reaches the store comes to what the store that is
  not watched answers.
-/
theorem flush_of_reached
    (hWaiting : o.unpublished ≠ [])
    (hVerdict :
      (store.check o.probeTimeout o.shared.store.inner).1 = .ok ()) :
    let probed :=
      (store.check o.probeTimeout o.shared.store.inner).2
    let count := (store.settled now o.unpublished probed).length
    o.flush store.watched now =
      ({ attempted := o.pending
         published := (store.accepted now o.unpublished probed).length
         dropped := (store.refused now o.unpublished probed).length
         remaining := o.pending - count
         skipped := false },
        { o with
          shared :=
            { store :=
                { inner :=
                    store.offered now (o.unpublished.take (count + 1))
                      probed
                  uses :=
                    o.shared.store.uses ++
                      .probe o.probeTimeout ::
                        (o.unpublished.take (count + 1)).map
                          (.append now) }
              buffer := o.shared.buffer.without count } }) := by
  intro probed count
  have hWatched :
      (store.watched.check o.probeTimeout o.shared.store).1 = .ok () :=
    hVerdict
  have hRun :=
    Flushing.run_of_reached now hWaiting hWatched
  simp only [Store.offered_watched, Store.accepted, Store.refused,
    Store.settled_watched, check_watched] at hRun
  simp only [flush, hRun, List.append_assoc, List.singleton_append]
  rfl

/- Flushing takes no notice of the store being watched. -/
theorem flush_unwatched
    (hWaiting : o.unpublished ≠ []) :
    o.unwatched.flush store now =
      ((o.flush store.watched now).1,
        (o.flush store.watched now).2.unwatched) := by
  have hBare : o.unwatched.shared.buffer.items ≠ [] := hWaiting
  cases hVerdict :
      (store.check o.probeTimeout o.shared.store.inner).1 with
  | error fault =>
      have hRun :=
        Flushing.run_of_unreached (s := o.unwatched.shared) now hBare
          hVerdict
      rw [flush_of_unreached hWaiting hVerdict]
      simp only [flush]
      simp only [unwatched] at hRun ⊢
      rw [hRun]
      rfl
  | ok reached =>
      have hRun :=
        Flushing.run_of_reached (s := o.unwatched.shared) now hBare
          hVerdict
      rw [flush_of_reached hWaiting hVerdict]
      simp only [flush]
      simp only [unwatched] at hRun ⊢
      rw [hRun]
      rfl

end Flush

/-
  Flushing an outbox in which records wait comes to what the
  answers of the store say, whatever they are.
-/
theorem flushed_alone
    {σ : Type}
    (store : Store Record σ)
    (now : Instant)
    {o : Outbox (Watched Record σ)}
    (hWaiting : o.unpublished ≠ []) :
    o.FlushesAlone store now where
  skipped := by
    intro fault hVerdict
    rw [flush_of_unreached hWaiting hVerdict]
    exact ⟨rfl, rfl, rfl⟩
  reached := by
    intro hVerdict probed settled count
    rw [flush_of_reached hWaiting hVerdict]
    exact
      ⟨rfl, store.map_fst_settled now o.unpublished probed, rfl, rfl,
        store.length_accepted_add_refused now o.unpublished probed⟩
  appended := by
    intro entries hStore hVerdict
    rw [flush_of_reached hWaiting hVerdict]
    exact
      (hStore.entries_offered now o.unpublished _).trans
        (congrArg (· ++ _) (hStore.probed _ _))
  emptied := by
    intro hVerdict hStays
    have hAll := store.length_settled_of_stays now hStays
    rw [flush_of_reached hWaiting hVerdict]
    exact List.drop_eq_nil_of_le hAll.ge
  undisturbed := flush_unwatched hWaiting

/-
  Four records wait.  The store takes the first, refuses the
  second, and goes away at the third.
-/
def backlog : Outbox (Watched Record (Scripted (List Record))) where
  stream := "stream"
  streamLength := 10
  probeTimeout := ⟨1000⟩
  shared :=
    { store :=
        { inner :=
            (Scripted.create []).cue []
              [.pass, .fail (.rejected "full"), .fail (.unavailable "away")]
          uses := [] }
      buffer :=
        { capacity := 4
          items :=
            ["first", "second", "third", "fourth"].map fun stream =>
              { stream := stream, maxLength := 10, fields := .empty }
          evicted := 7
          room := by decide
          fits := by decide } }

/- The third and the fourth record wait on, behind no others. -/
theorem backlog_flushed :
    let after := backlog.flush (Scripted.store .list).watched ⟨5⟩
    after.1 =
        { attempted := 4
          published := 1
          dropped := 1
          remaining := 2
          skipped := false } ∧
      after.2.unpublished.map (·.stream) = ["third", "fourth"] ∧
      after.2.evicted = 7 ∧
      after.2.shared.store.inner.inner.map (·.stream) = ["first"] ∧
      after.2.shared.store.uses.length = 4 := by
  have hAlone : backlog.FlushesAlone (Scripted.store .list) ⟨5⟩ :=
    flushed_alone (Scripted.store .list) ⟨5⟩ (by decide)
  rcases hAlone.reached rfl with
    ⟨hUses, -, hBuffer, hResult, -⟩
  have hEntries :=
    hAlone.appended _ Store.appendsLast_list.scripted rfl
  refine ⟨hResult, ?_, ?_, ?_, ?_⟩
  · rw [unpublished, hBuffer]
    rfl
  · rw [evicted, hBuffer]
    rfl
  · rw [hEntries]
    rfl
  · rw [hUses]
    rfl

end Outbox

end Courier
