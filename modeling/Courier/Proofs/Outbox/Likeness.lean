import Courier.Proofs.Outbox.Ledger
import Courier.Proofs.Service.Transparency
import Mathlib.Data.List.Forall2

/-
  This file compares what happens on two outboxes whose calls
  hand in items that are alike.  When two items are alike is
  left open, and so is how far the clocks may be apart.

  A store does not tell such items apart if it answers alike
  whenever the same uses were made of it so far, up to the
  likeness of items.  Then no step of a call or of a pass tells
  them apart, and neither does any run.

  Key definitions include:
    * `Store.Agrees`
    * `Shared.Alike`, `Publishing.Alike`, `Flushing.Alike`
    * `Traffic.Alike`, `Ledger.Alike`

  Main statements:
    * `Store.Agrees.watched`, `Store.Agrees.audited`
    * `Publishing.Alike.step`, `Flushing.Alike.step`
    * `Ledger.Alike.step`
-/

namespace Courier

------------------------------------------------------------
-- Lists
------------------------------------------------------------

section Lists

variable {α β : Type}
variable {R : α → β → Prop}
variable {as : List α} {bs : List β}

/- Lists that are alike are so in each place. -/
theorem rel_getElem?
    (h : List.Forall₂ R as bs)
    (n : Nat) :
    (as[n]? = none ∧ bs[n]? = none) ∨
      ∃ a b, as[n]? = some a ∧ bs[n]? = some b ∧ R a b := by
  induction h generalizing n with
  | nil => exact .inl ⟨rfl, rfl⟩
  | cons hFirst _ ih =>
      cases n with
      | zero => exact .inr ⟨_, _, rfl, rfl, hFirst⟩
      | succ n => exact ih n

/- They stay alike if the elements in one place are replaced. -/
theorem rel_set
    (h : List.Forall₂ R as bs)
    {a : α}
    {b : β}
    (hNew : R a b)
    (n : Nat) :
    List.Forall₂ R (as.set n a) (bs.set n b) := by
  induction h generalizing n with
  | nil => exact .nil
  | cons hFirst hRest ih =>
      cases n with
      | zero => exact .cons hNew hRest
      | succ n => exact .cons hFirst (ih n)

/- They are alike at their ends. -/
theorem rel_getLast?
    (h : List.Forall₂ R as bs) :
    List.Forall₂ R as.getLast?.toList bs.getLast?.toList := by
  rw [List.getLast?_eq_getElem?, List.getLast?_eq_getElem?, h.length_eq]
  rcases rel_getElem? h (bs.length - 1) with
    ⟨hNone, hNone'⟩ | ⟨a, b, hLast, hLast', hSame⟩
  · rw [hNone, hNone']
    exact .nil
  · rw [hLast, hLast']
    exact .cons hSame .nil

end Lists

variable {α σ : Type}

------------------------------------------------------------
-- Buffers
------------------------------------------------------------

/- Buffers whose items are alike, and that are the same otherwise. -/
structure Buffer.Alike
    (Q : α → α → Prop)
    (b b' : Buffer α) : Prop where
  capacity : b.capacity = b'.capacity
  items : List.Forall₂ Q b.items b'.items
  evicted : b.evicted = b'.evicted

namespace Buffer.Alike

variable {Q : α → α → Prop}
variable {b b' : Buffer α}

/- Buffers stay alike when they are filled anew. -/
theorem refill
    (h : b.Alike Q b')
    {items items' : List α}
    (hItems : List.Forall₂ Q items items') :
    List.Forall₂ Q (b.overflow items) (b'.overflow items') ∧
      (b.refill items).2.Alike Q (b'.refill items').2 := by
  have hExcess :
      items.length - b.capacity = items'.length - b'.capacity := by
    rw [h.capacity, hItems.length_eq]
  have hOverflow :
      List.Forall₂ Q (b.overflow items) (b'.overflow items') := by
    change List.Forall₂ Q (items.take _) (items'.take _)
    rw [hExcess]
    exact List.forall₂_take _ hItems
  refine ⟨hOverflow, h.capacity, ?_, ?_⟩
  · change List.Forall₂ Q (items.drop _) (items'.drop _)
    rw [hExcess]
    exact List.forall₂_drop _ hItems
  · rw [evicted_refill, evicted_refill, h.evicted, hOverflow.length_eq]

/- They stay alike when items that are alike are to wait. -/
theorem push
    (h : b.Alike Q b')
    {item item' : α}
    (hItem : Q item item') :
    List.Forall₂ Q (b.push item).1.toList (b'.push item').1.toList ∧
      (b.push item).2.Alike Q (b'.push item').2 := by
  rcases h.refill (List.rel_append h.items (.cons hItem .nil)) with
    ⟨hOverflow, hRefilled⟩
  exact ⟨rel_getLast? hOverflow, hRefilled⟩

/- They stay alike when items are put back. -/
theorem requeue
    (h : b.Alike Q b')
    {failed failed' : List α}
    (hFailed : List.Forall₂ Q failed failed') :
    (b.requeue failed).2.Alike Q (b'.requeue failed').2 := by
  cases hFailed with
  | nil => exact h
  | cons hFirst hRest =>
      exact
        (h.refill (List.rel_append (.cons hFirst hRest) h.items)).2

/- They stay alike when all items are taken. -/
theorem takeAll
    (h : b.Alike Q b') :
    b.takeAll.2.Alike Q b'.takeAll.2 :=
  ⟨h.capacity, .nil, h.evicted⟩

/- As many items wait in one as in the other. -/
theorem length
    (h : b.Alike Q b') :
    b.length = b'.length :=
  h.items.length_eq

/- One is empty if the other is. -/
theorem isEmpty
    (h : b.Alike Q b') :
    b.isEmpty = b'.isEmpty := by
  rw [Bool.eq_iff_iff, Buffer.isEmpty, Buffer.isEmpty,
    List.isEmpty_iff_length_eq_zero, List.isEmpty_iff_length_eq_zero,
    h.items.length_eq]

end Buffer.Alike

------------------------------------------------------------
-- Stores
------------------------------------------------------------

/- The answers to two appends are alike, whatever the new ids. -/
inductive AnswersAlike :
    Except StoreFault String → Except StoreFault String → Prop where
  | ok (id id' : String) : AnswersAlike (.ok id) (.ok id')
  | error (fault : StoreFault) :
      AnswersAlike (.error fault) (.error fault)

/-
  A store answers alike in states that are alike, if it is used
  alike, and the states stay alike.  Items may differ as `Q`
  allows, and clocks as `T` does.
-/
structure Store.Agrees
    (store : Store α σ)
    (T : Instant → Instant → Prop)
    (Q : α → α → Prop)
    (R : σ → σ → Prop) : Prop where
  probed :
    ∀ limit s s',
      R s s' →
        (store.ping limit s).1.verdict limit =
            (store.ping limit s').1.verdict limit ∧
          R (store.ping limit s).2 (store.ping limit s').2
  appended :
    ∀ now now' item item' s s',
      T now now' →
      Q item item' →
      R s s' →
        AnswersAlike (store.append now item s).1
            (store.append now' item' s').1 ∧
          R (store.append now item s).2 (store.append now' item' s').2

/- What is shared by calls and passes, with alike items. -/
structure Shared.Alike
    (Q : α → α → Prop)
    (R : σ → σ → Prop)
    (s s' : Shared α σ) : Prop where
  store : R s.store s'.store
  buffer : s.buffer.Alike Q s'.buffer

/- Uses of a store that are alike. -/
inductive StoreUse.Alike
    (T : Instant → Instant → Prop)
    (Q : α → α → Prop) : StoreUse α → StoreUse α → Prop where
  | probe (limit : Duration) :
      Alike T Q (.probe limit) (.probe limit)
  | append
      {now now' : Instant}
      {item item' : α}
      (hNow : T now now')
      (hItem : Q item item') :
      Alike T Q (.append now item) (.append now' item')

/- Stores in alike states that were used alike. -/
structure Watched.Alike
    (T : Instant → Instant → Prop)
    (Q : α → α → Prop)
    (R : σ → σ → Prop)
    (s s' : Watched α σ) : Prop where
  inner : R s.inner s'.inner
  uses : List.Forall₂ (StoreUse.Alike T Q) s.uses s'.uses

/- Items of calls with the same number that are alike. -/
structure Ticket.Alike
    (Q : α → α → Prop)
    (t t' : Ticket α) : Prop where
  call : t.call = t'.call
  item : Q t.item t'.item

/- Stores in alike states that accepted and refused alike items. -/
structure Audit.Alike
    (Q : α → α → Prop)
    (R : σ → σ → Prop)
    (s s' : Audit α σ) : Prop where
  inner : R s.inner s'.inner
  accepted : List.Forall₂ Q s.accepted s'.accepted
  refused : List.Forall₂ Q s.refused s'.refused

/- What is kept about items that are alike is alike. -/
theorem Audit.Alike.note
    {Q : α → α → Prop}
    {R : σ → σ → Prop}
    {s s' : Audit α σ}
    (h : s.Alike Q R s')
    {item item' : α}
    (hItem : Q item item')
    {answer answer' : Except StoreFault String}
    (hAnswer : AnswersAlike answer answer') :
    (s.note item answer).Alike Q R (s'.note item' answer') := by
  have hLast : List.Forall₂ Q [item] [item'] := .cons hItem .nil
  cases hAnswer with
  | ok id id' =>
      exact ⟨h.inner, List.rel_append h.accepted hLast, h.refused⟩
  | error fault =>
      simp only [Audit.note]
      split
      · exact h
      · exact ⟨h.inner, h.accepted, List.rel_append h.refused hLast⟩

namespace Store.Agrees

variable {store : Store α σ}
variable {T : Instant → Instant → Prop}
variable {Q : α → α → Prop}
variable {R : σ → σ → Prop}

/- A store that is watched answers as the store itself. -/
theorem watched
    (hStore : store.Agrees T Q R) :
    store.watched.Agrees T Q (Watched.Alike T Q R) where
  probed := by
    intro limit s s' h
    rcases hStore.probed limit _ _ h.inner with ⟨hVerdict, hInner⟩
    exact
      ⟨hVerdict, hInner,
        List.rel_append h.uses (.cons (.probe limit) .nil)⟩
  appended := by
    intro now now' item item' s s' hNow hItem h
    rcases hStore.appended _ _ _ _ _ _ hNow hItem h.inner with
      ⟨hAnswer, hInner⟩
    exact
      ⟨hAnswer, hInner,
        List.rel_append h.uses (.cons (.append hNow hItem) .nil)⟩

/- So does one whose answers are kept. -/
theorem audited
    (hStore : store.Agrees T Q R) :
    store.audited.Agrees T (Ticket.Alike Q)
      (Audit.Alike (Ticket.Alike Q) R) where
  probed := by
    intro limit s s' h
    rcases hStore.probed limit _ _ h.inner with ⟨hVerdict, hInner⟩
    exact ⟨hVerdict, hInner, h.accepted, h.refused⟩
  appended := by
    intro now now' ticket ticket' s s' hNow hTicket h
    rcases hStore.appended _ _ _ _ _ _ hNow hTicket.item h.inner with
      ⟨hAnswer, hInner⟩
    refine ⟨hAnswer, Audit.Alike.note ?_ hTicket hAnswer⟩
    exact ⟨hInner, h.accepted, h.refused⟩

end Store.Agrees

------------------------------------------------------------
-- Steps
------------------------------------------------------------

/- Calls that stand at the same point, with alike items. -/
inductive Publishing.Alike
    (Q : α → α → Prop) : Publishing α → Publishing α → Prop where
  | probing
      {item item' : α}
      (hItem : Q item item')
      (policy : EmitPolicy) :
      Alike Q (.probing item policy) (.probing item' policy)
  | appending
      {item item' : α}
      (hItem : Q item item')
      (policy : EmitPolicy) :
      Alike Q (.appending item policy) (.appending item' policy)
  | buffering
      {item item' : α}
      (hItem : Q item item') :
      Alike Q (.buffering item) (.buffering item')
  | done (result : Except OutboxFault Unit) :
      Alike Q (.done result) (.done result)

/- Passes that stand at the same point, with alike items in hand. -/
inductive Flushing.Alike
    (Q : α → α → Prop) : Flushing α → Flushing α → Prop where
  | starting : Alike Q .starting .starting
  | probing : Alike Q .probing .probing
  | skipping : Alike Q .skipping .skipping
  | taking : Alike Q .taking .taking
  | offering
      (tally : Tally)
      {batch batch' : List α}
      (hBatch : List.Forall₂ Q batch batch') :
      Alike Q (.offering tally batch) (.offering tally batch')
  | requeueing
      (tally : Tally)
      {failed failed' : List α}
      (hFailed : List.Forall₂ Q failed failed') :
      Alike Q (.requeueing tally failed) (.requeueing tally failed')
  | measuring (tally : Tally) :
      Alike Q (.measuring tally) (.measuring tally)
  | done (result : FlushResult) :
      Alike Q (.done result) (.done result)

section Steps

variable {store : Store α σ}
variable {T : Instant → Instant → Prop}
variable {Q : α → α → Prop}
variable {R : σ → σ → Prop}
variable (hStore : store.Agrees T Q R)
variable (limit : Duration)
variable {now now' : Instant}
variable (hNow : T now now')
variable {s s' : Shared α σ}
variable (hShared : s.Alike Q R s')

include hStore hShared in
/- A probe counts alike in both outboxes. -/
theorem Shared.Alike.check :
    (store.check limit s.store).1 = (store.check limit s'.store).1 ∧
      Shared.Alike Q R
        { s with store := (store.check limit s.store).2 }
        { s' with store := (store.check limit s'.store).2 } := by
  rcases hStore.probed limit _ _ hShared.store with ⟨hVerdict, hInner⟩
  exact ⟨hVerdict, hInner, hShared.buffer⟩

include hStore hNow hShared

/- An append is answered alike in both. -/
theorem Shared.Alike.append
    {item item' : α}
    (hItem : Q item item') :
    AnswersAlike (store.append now item s.store).1
        (store.append now' item' s'.store).1 ∧
      Shared.Alike Q R
        { s with store := (store.append now item s.store).2 }
        { s' with store := (store.append now' item' s'.store).2 } := by
  rcases hStore.appended _ _ _ _ _ _ hNow hItem hShared.store with
    ⟨hAnswer, hInner⟩
  exact ⟨hAnswer, hInner, hShared.buffer⟩

/- No step of a call tells alike items apart. -/
theorem Publishing.Alike.step
    {p p' : Publishing α}
    (h : p.Alike Q p') :
    (p.step store limit now s).1.Alike Q
        (p'.step store limit now' s').1 ∧
      (p.step store limit now s).2.Alike Q R
        (p'.step store limit now' s').2 := by
  cases h with
  | probing hItem policy =>
      rcases hShared.check hStore limit with ⟨hVerdict, hProbed⟩
      simp only [Publishing.step, ← hVerdict]
      cases (store.check limit s.store).1 with
      | ok value => exact ⟨.appending hItem policy, hProbed⟩
      | error fault => exact ⟨.buffering hItem, hProbed⟩
  | appending hItem policy =>
      rename_i item item'
      rcases hShared.append hStore hNow hItem with ⟨hAnswer, hOffered⟩
      simp only [Publishing.step]
      generalize (store.append now item s.store).1 = answer at hAnswer
      generalize (store.append now' item' s'.store).1 = answer' at hAnswer
      cases hAnswer with
      | ok id id' => exact ⟨.done _, hOffered⟩
      | error fault =>
          cases hConnection : fault.isConnection with
          | true => simpa [hConnection] using ⟨.buffering hItem, hOffered⟩
          | false => simpa [hConnection] using ⟨.done _, hOffered⟩
  | buffering hItem =>
      exact ⟨.done _, hShared.store, (hShared.buffer.push hItem).2⟩
  | done result => exact ⟨.done result, hShared⟩

/- Nor does a step of a pass. -/
theorem Flushing.Alike.step
    {f f' : Flushing α}
    (h : f.Alike Q f') :
    (f.step store limit now s).1.Alike Q
        (f'.step store limit now' s').1 ∧
      (f.step store limit now s).2.Alike Q R
        (f'.step store limit now' s').2 := by
  have hLength := hShared.buffer.length
  cases h with
  | starting =>
      simp only [Flushing.step, hShared.buffer.isEmpty]
      split
      · exact ⟨.done _, hShared⟩
      · exact ⟨.probing, hShared⟩
  | probing =>
      rcases hShared.check hStore limit with ⟨hVerdict, hProbed⟩
      simp only [Flushing.step, ← hVerdict]
      cases (store.check limit s.store).1 with
      | ok value => exact ⟨.taking, hProbed⟩
      | error fault => exact ⟨.skipping, hProbed⟩
  | skipping =>
      simp only [Flushing.step, hLength]
      exact ⟨.done _, hShared⟩
  | taking =>
      have hItems := hShared.buffer.items
      simp only [Flushing.step, Buffer.takeAll, hItems.length_eq]
      exact ⟨.offering _ hItems, hShared.store, hShared.buffer.takeAll⟩
  | offering tally hBatch =>
      cases hBatch with
      | nil => exact ⟨.requeueing tally .nil, hShared⟩
      | cons hItem hRest =>
          rename_i item item' rest rest'
          rcases hShared.append hStore hNow hItem with
            ⟨hAnswer, hOffered⟩
          simp only [Flushing.step]
          generalize (store.append now item s.store).1 = answer at hAnswer
          generalize (store.append now' item' s'.store).1 = answer'
            at hAnswer
          cases hAnswer with
          | ok id id' => exact ⟨.offering _ hRest, hOffered⟩
          | error fault =>
              cases hConnection : fault.isConnection with
              | true =>
                  simpa [hConnection] using
                    ⟨.requeueing tally (.cons hItem hRest), hOffered⟩
              | false =>
                  simpa [hConnection] using ⟨.offering _ hRest, hOffered⟩
  | requeueing tally hFailed =>
      exact
        ⟨.measuring tally, hShared.store, hShared.buffer.requeue hFailed⟩
  | measuring tally =>
      simp only [Flushing.step, hLength]
      exact ⟨.done _, hShared⟩
  | done result => exact ⟨.done result, hShared⟩

end Steps

------------------------------------------------------------
-- Moves
------------------------------------------------------------

/- What makes way in a step of a call is alike. -/
theorem Publishing.Alike.evicting
    {Q : α → α → Prop}
    {R : σ → σ → Prop}
    {s s' : Shared α σ}
    (hShared : s.Alike Q R s')
    {p p' : Publishing α}
    (h : p.Alike Q p') :
    List.Forall₂ Q (p.evicting s) (p'.evicting s') := by
  cases h with
  | buffering hItem => exact (hShared.buffer.push hItem).1
  | _ => exact .nil

/- So is what makes way in a step of a pass. -/
theorem Flushing.Alike.evicting
    {Q : α → α → Prop}
    {R : σ → σ → Prop}
    {s s' : Shared α σ}
    (hShared : s.Alike Q R s')
    {f f' : Flushing α}
    (h : f.Alike Q f') :
    List.Forall₂ Q (f.evicting s) (f'.evicting s') := by
  cases h with
  | requeueing tally hFailed =>
      exact
        (hShared.buffer.refill
          (List.rel_append hFailed hShared.buffer.items)).1
  | _ => exact .nil

/- What a pass has in hand is alike. -/
theorem Flushing.Alike.held
    {Q : α → α → Prop}
    {f f' : Flushing α}
    (h : f.Alike Q f') :
    List.Forall₂ Q f.held f'.held := by
  cases h with
  | offering tally hBatch => exact hBatch
  | requeueing tally hFailed => exact hFailed
  | _ => exact .nil

/- The same traffic, with alike items on stores in alike states. -/
structure Traffic.Alike
    (Q : α → α → Prop)
    (R : σ → σ → Prop)
    (t t' : Traffic α σ) : Prop where
  shared : t.shared.Alike Q R t'.shared
  publishings :
    List.Forall₂ (Publishing.Alike Q) t.publishings t'.publishings
  passes : List.Forall₂ (Flushing.Alike Q) t.passes t'.passes

/- The same move, with alike items and at times that are alike. -/
inductive Traffic.Move.Alike
    (T : Instant → Instant → Prop)
    (Q : α → α → Prop) : Move α → Move α → Prop where
  | publish
      {item item' : α}
      (hItem : Q item item')
      (policy : EmitPolicy) :
      Alike T Q (.publish item policy) (.publish item' policy)
  | flush : Alike T Q .flush .flush
  | advance
      (call : Nat)
      {now now' : Instant}
      (hNow : T now now') :
      Alike T Q (.advance call now) (.advance call now')
  | retry
      (pass : Nat)
      {now now' : Instant}
      (hNow : T now now') :
      Alike T Q (.retry pass now) (.retry pass now')

/- Ledgers of the same traffic with alike items. -/
structure Ledger.Alike
    (Q : α → α → Prop)
    (R : σ → σ → Prop)
    (l l' : Ledger α σ) : Prop where
  traffic :
    l.traffic.Alike (Ticket.Alike Q) (Audit.Alike (Ticket.Alike Q) R)
      l'.traffic
  issued : List.Forall₂ (Ticket.Alike Q) l.issued l'.issued
  evicted : List.Forall₂ (Ticket.Alike Q) l.evicted l'.evicted

namespace Ledger.Alike

variable {store : Store α σ}
variable {T : Instant → Instant → Prop}
variable {Q : α → α → Prop}
variable {R : σ → σ → Prop}
variable {l l' : Ledger α σ}

/- The ledgers of outboxes that nobody has used yet are alike. -/
theorem create
    (Q : α → α → Prop)
    (capacity : Nat)
    {s s' : σ}
    (hStart : R s s') :
    (Ledger.create capacity s : Ledger α σ).Alike Q R
      (.create capacity s') where
  traffic :=
    { shared := ⟨⟨hStart, .nil, .nil⟩, rfl, .nil, rfl⟩
      publishings := .nil
      passes := .nil }
  issued := .nil
  evicted := .nil

/- No move tells alike items apart. -/
theorem step
    (hStore : store.Agrees T Q R)
    (limit : Duration)
    (h : l.Alike Q R l')
    {move move' : Traffic.Move α}
    (hMove : move.Alike T Q move') :
    (l.step store limit move).Alike Q R (l'.step store limit move') := by
  cases hMove with
  | publish hItem policy =>
      rename_i item item'
      have hTicket :
          Ticket.Alike Q ⟨l.traffic.publishings.length, item⟩
            ⟨l'.traffic.publishings.length, item'⟩ :=
        ⟨h.traffic.publishings.length_eq, hItem⟩
      rw [step_publish, step_publish]
      refine ⟨⟨h.traffic.shared, ?_, h.traffic.passes⟩, ?_, h.evicted⟩
      · exact
          List.rel_append h.traffic.publishings
            (.cons (.probing hTicket policy) .nil)
      · exact List.rel_append h.issued (.cons hTicket .nil)
  | flush =>
      rw [step_flush, step_flush]
      refine
        ⟨⟨h.traffic.shared, h.traffic.publishings, ?_⟩, h.issued,
          h.evicted⟩
      exact List.rel_append h.traffic.passes (.cons .starting .nil)
  | advance n hNow =>
      rcases rel_getElem? h.traffic.publishings n with
        ⟨hNone, hNone'⟩ | ⟨p, p', hCall, hCall', hSame⟩
      · rw [step_advance_of_none hNone, step_advance_of_none hNone']
        exact h
      · rw [step_advance hCall, step_advance hCall']
        rcases hSame.step hStore.audited limit hNow h.traffic.shared with
          ⟨hNext, hShared⟩
        refine ⟨⟨hShared, ?_, h.traffic.passes⟩, h.issued, ?_⟩
        · exact rel_set h.traffic.publishings hNext n
        · exact
            List.rel_append h.evicted
              (hSame.evicting h.traffic.shared)
  | retry n hNow =>
      rcases rel_getElem? h.traffic.passes n with
        ⟨hNone, hNone'⟩ | ⟨f, f', hPass, hPass', hSame⟩
      · rw [step_retry_of_none hNone, step_retry_of_none hNone']
        exact h
      · rw [step_retry hPass, step_retry hPass']
        rcases hSame.step hStore.audited limit hNow h.traffic.shared with
          ⟨hNext, hShared⟩
        refine ⟨⟨hShared, h.traffic.publishings, ?_⟩, h.issued, ?_⟩
        · exact rel_set h.traffic.passes hNext n
        · exact
            List.rel_append h.evicted
              (hSame.evicting h.traffic.shared)

/- Items that are alike are in each place. -/
theorem itemsIn
    (h : l.Alike Q R l')
    (place : Place) :
    List.Forall₂ (Ticket.Alike Q) (l.itemsIn place) (l'.itemsIn place) := by
  cases place with
  | accepted => exact h.traffic.shared.store.accepted
  | waiting => exact h.traffic.shared.buffer.items
  | held n =>
      simp only [Ledger.itemsIn]
      rcases rel_getElem? h.traffic.passes n with
        ⟨hNone, hNone'⟩ | ⟨f, f', hPass, hPass', hSame⟩
      · rw [hNone, hNone']
        exact .nil
      · rw [hPass, hPass']
        exact hSame.held
  | evicted => exact h.evicted
  | refused => exact h.traffic.shared.store.refused

end Ledger.Alike

end Courier
