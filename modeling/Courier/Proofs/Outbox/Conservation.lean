import Courier.Outbox.ScriptedStore
import Courier.Proofs.Outbox.Ledger
import Courier.Proofs.Pool

/-
  No item is lost or doubled in an outbox.  Whatever the store
  does, and in whatever order calls and passes take their
  steps, the items handed in are the items of calls that have
  not returned, together with the items in all places.

  Key definitions include:
    * `Shared.contents`
    * `Shared.Accounts`
    * `Ledger.Balanced`
    * `Ledger.OnlyIn`
    * `Store.AppendsOne`

  Main statements:
    * `Publishing.step_accounts`, `Flushing.step_accounts`
    * `Ledger.balanced_run`
    * `Ledger.returned_only_in_one_place`
-/

namespace Courier

------------------------------------------------------------
-- Single steps
------------------------------------------------------------

section Steps

variable {α σ : Type}

/- The items that a store settled, and those that wait. -/
def Shared.contents
    {β : Type}
    (s : Shared β (Audit β σ)) : Multiset β :=
  (s.store.accepted : Multiset β) + s.store.refused + s.buffer.items

/-
  What a step did to the shared state.  The items in the hands
  of the one who took it, those that the state holds, and
  those that made way are together what they were.
-/
structure Shared.Accounts
    {β : Type}
    (before after evicted : List β)
    (s s' : Shared β (Audit β σ)) : Prop where
  counted : s'.buffer.evicted = s.buffer.evicted + evicted.length
  kept : s.store.refused ⊆ s'.store.refused
  conserved :
    (evicted : Multiset β) + after + s'.contents =
      (before : Multiset β) + s.contents

/- A step that leaves the contents alone accounts for them. -/
theorem Shared.Accounts.of_same
    {β : Type}
    {inHand : List β}
    {s s' : Shared β (Audit β σ)}
    (hBuffer : s'.buffer = s.buffer)
    (hAccepted : s'.store.accepted = s.store.accepted)
    (hRefused : s'.store.refused = s.store.refused) :
    Shared.Accounts inHand inHand [] s s' where
  counted := by simp [hBuffer]
  kept := by simp [hRefused]
  conserved := by
    simp [contents, hBuffer, hAccepted, hRefused]

/-
  A step that offers an item to the store accounts for it.  An
  item that the store could not take stays in hand.
-/
theorem Shared.Accounts.of_append
    (item : Ticket α)
    (rest : List (Ticket α))
    (s : Shared (Ticket α) (Audit (Ticket α) σ))
    (inner : σ)
    (answer : Except StoreFault String) :
    Shared.Accounts (item :: rest)
      (match answer with
        | .ok _ => rest
        | .error fault =>
            if fault.isConnection then item :: rest else rest)
      [] s
      { s with
        store := { s.store with inner := inner }.note item answer } := by
  constructor
  · simp
  · cases answer with
    | ok id => simp [Audit.note]
    | error fault =>
        by_cases h : fault.isConnection <;> simp [Audit.note, h]
  · cases answer with
    | ok id =>
        simp only [contents, Audit.note, ← Multiset.coe_add,
          ← Multiset.singleton_add, ← Multiset.cons_coe,
          Multiset.coe_nil]
        abel
    | error fault =>
        by_cases h : fault.isConnection
        · simp [contents, Audit.note, h]
        · simp only [contents, Audit.note, h, if_false,
            Bool.false_eq_true, ← Multiset.coe_add,
            ← Multiset.singleton_add, ← Multiset.cons_coe,
            Multiset.coe_nil]
          abel

/-
  Filling the buffer anew with items in hand accounts for
  those that make way.
-/
theorem Shared.Accounts.of_refill
    {β : Type}
    {inHand items : List β}
    {s : Shared β (Audit β σ)}
    (hItems : (items : Multiset β) = inHand + s.buffer.items) :
    Shared.Accounts inHand [] (s.buffer.overflow items) s
      { s with buffer := (s.buffer.refill items).2 } := by
  constructor
  · exact Buffer.evicted_refill s.buffer items
  · simp
  · have hSplit := Buffer.overflow_append_items s.buffer items
    have hSum :
        (s.buffer.overflow items : Multiset β) +
            (s.buffer.refill items).2.items =
          inHand + s.buffer.items := by
      rw [← hItems, Multiset.coe_add, hSplit]
    simp only [contents, Multiset.coe_nil, add_zero]
    calc
      (s.buffer.overflow items : Multiset β) +
            (s.store.accepted + s.store.refused +
              (s.buffer.refill items).2.items) =
          (s.store.accepted + s.store.refused) +
            ((s.buffer.overflow items : Multiset β) +
              (s.buffer.refill items).2.items) := by abel
      _ = (s.store.accepted + s.store.refused) +
            (inHand + s.buffer.items) := by rw [hSum]
      _ = inHand +
            (s.store.accepted + s.store.refused +
              s.buffer.items) := by abel

/- A step of a call accounts for the item of the call. -/
theorem Publishing.step_accounts
    (store : Store α σ)
    (limit : Duration)
    (now : Instant)
    (p : Publishing (Ticket α))
    (s : Shared (Ticket α) (Audit (Ticket α) σ)) :
    Shared.Accounts p.unsettled
      (p.step store.audited limit now s).1.unsettled
      (p.evicting s) s
      (p.step store.audited limit now s).2 := by
  cases p with
  | probing item policy =>
      simp only [step, Store.check, Store.audited, evicting]
      split
      · exact .of_same rfl rfl rfl
      · exact .of_same rfl rfl rfl
  | appending item policy =>
      have hAppend :=
        Shared.Accounts.of_append item [] s
          (store.append now item.item s.store.inner).2
          (store.append now item.item s.store.inner).1
      simp only [step, Store.audited, evicting]
      revert hAppend
      cases (store.append now item.item s.store.inner).1 with
      | ok id => exact fun h => h
      | error fault =>
          by_cases hFault : fault.isConnection
          · simp only [hFault, if_true]
            exact fun h => h
          · simp only [hFault]
            exact fun h => h
  | buffering item =>
      simp only [step, evicting, Buffer.push_fst_toList,
        Buffer.push_snd]
      apply Shared.Accounts.of_refill
      simp only [unsettled, ← Multiset.coe_add]
      abel
  | done result =>
      exact .of_same rfl rfl rfl

/- A step of a pass accounts for the items that the pass holds. -/
theorem Flushing.step_accounts
    (store : Store α σ)
    (limit : Duration)
    (now : Instant)
    (f : Flushing (Ticket α))
    (s : Shared (Ticket α) (Audit (Ticket α) σ)) :
    Shared.Accounts f.held
      (f.step store.audited limit now s).1.held
      (f.evicting s) s
      (f.step store.audited limit now s).2 := by
  cases f with
  | starting =>
      simp only [step, evicting]
      split
      · exact .of_same rfl rfl rfl
      · exact .of_same rfl rfl rfl
  | probing =>
      simp only [step, Store.check, Store.audited, evicting]
      split
      · exact .of_same rfl rfl rfl
      · exact .of_same rfl rfl rfl
  | skipping => exact .of_same rfl rfl rfl
  | taking =>
      constructor
      · rfl
      · exact fun _ h => h
      · simp only [step, held, evicting, Shared.contents,
          Buffer.takeAll, Multiset.coe_nil]
        abel
  | offering tally batch =>
      cases batch with
      | nil => exact .of_same rfl rfl rfl
      | cons item rest =>
          have hAppend :=
            Shared.Accounts.of_append item rest s
              (store.append now item.item s.store.inner).2
              (store.append now item.item s.store.inner).1
          simp only [step, Store.audited, evicting]
          revert hAppend
          cases (store.append now item.item s.store.inner).1 with
          | ok id => exact fun h => h
          | error fault =>
              by_cases hFault : fault.isConnection
              · simp only [hFault, if_true]
                exact fun h => h
              · simp only [hFault]
                exact fun h => h
  | requeueing tally failed =>
      simp only [step, evicting, Buffer.requeue_snd]
      apply Shared.Accounts.of_refill
      simp only [held, Multiset.coe_add]
  | measuring tally => exact .of_same rfl rfl rfl
  | done result => exact .of_same rfl rfl rfl

/- A step leaves a call with no other item than it had. -/
theorem Publishing.unsettled_step_subset
    {β τ : Type}
    (store : Store β τ)
    (limit : Duration)
    (now : Instant)
    (p : Publishing β)
    (s : Shared β τ) :
    (p.step store limit now s).1.unsettled ⊆ p.unsettled := by
  cases p with
  | probing item policy =>
      simp only [step]
      split <;> exact fun _ h => h
  | appending item policy =>
      simp only [step]
      split
      · exact List.nil_subset _
      · split
        · exact fun _ h => h
        · exact List.nil_subset _
  | buffering item => exact List.nil_subset _
  | done result => exact fun _ h => h

/- An item whose call returns a fault was refused just then. -/
theorem Publishing.refused_of_step_fault
    {store : Store α σ}
    {limit : Duration}
    {now : Instant}
    {p : Publishing (Ticket α)}
    {s : Shared (Ticket α) (Audit (Ticket α) σ)}
    {fault : OutboxFault}
    (hStep :
      (p.step store.audited limit now s).1 = done (.error fault)) :
    p = done (.error fault) ∨
      ∃ ticket ∈ p.unsettled,
        ticket ∈ (p.step store.audited limit now s).2.store.refused := by
  cases p with
  | probing item policy =>
      simp only [step] at hStep
      split at hStep <;> exact absurd hStep (by simp)
  | appending item policy =>
      right
      refine ⟨item, by simp [unsettled], ?_⟩
      revert hStep
      simp only [step, Store.audited]
      cases (store.append now item.item s.store.inner).1 with
      | ok id => simp
      | error refusal =>
          by_cases hConnection : refusal.isConnection
          · simp [hConnection]
          · simp [hConnection, Audit.note]
  | buffering item => simp [step] at hStep
  | done result => exact Or.inl hStep

end Steps

------------------------------------------------------------
-- Balanced ledgers
------------------------------------------------------------

namespace Ledger

variable {α σ : Type}
variable {store : Store α σ} {limit : Duration}

/- The items of calls that have not returned. -/
def unsettled
    (l : Ledger α σ) : Multiset (Ticket α) :=
  (l.traffic.publishings.map fun p =>
    (p.unsettled : Multiset (Ticket α))).sum

/- The items that passes hold. -/
def held
    (l : Ledger α σ) : Multiset (Ticket α) :=
  (l.traffic.passes.map fun f =>
    (f.held : Multiset (Ticket α))).sum

/-
  The books of a ledger balance: every item handed in is
  somewhere, and none is in two places.
-/
structure Balanced (l : Ledger α σ) : Prop where
  counted : l.shared.buffer.evicted = l.evicted.length
  /- Items are numbered in the order of their calls. -/
  numbered :
    l.issued.map (·.call) = List.range l.traffic.publishings.length
  conserved :
    l.unsettled + l.held + l.shared.contents + l.evicted =
      (l.issued : Multiset (Ticket α))
  /- A call has no other item than its own. -/
  own :
    ∀ (n : Nat) (p : Publishing (Ticket α)),
      l.traffic.publishings[n]? = some p →
        ∀ ticket ∈ p.unsettled, ticket.call = n
  /- A call returns a fault only if its item was refused. -/
  faulted :
    ∀ (n : Nat) (fault : OutboxFault),
      l.traffic.publishings[n]? = some (.done (.error fault)) →
        ∃ ticket ∈ l.shared.store.refused, ticket.call = n

/- The books of a new ledger balance. -/
theorem balanced_create
    (capacity : Nat)
    (s : σ) :
    (create capacity s : Ledger α σ).Balanced where
  counted := rfl
  numbered := rfl
  conserved := by
    simp [create, unsettled, held, shared, Shared.contents,
      Traffic.create, Buffer.create]
  own := by
    intro n p hCall
    simp [create, Traffic.create] at hCall
  faulted := by
    intro n fault hCall
    simp [create, Traffic.create] at hCall

/- A call that hands an item in keeps the books balanced. -/
theorem Balanced.publish
    {l : Ledger α σ}
    (h : l.Balanced)
    (item : α)
    (policy : EmitPolicy) :
    (l.step store limit (.publish item policy)).Balanced := by
  rw [step_publish]
  constructor
  · exact h.counted
  · simp [List.range_succ, h.numbered]
  · rw [← Multiset.coe_add, ← h.conserved]
    simp only [unsettled, held, shared, List.map_append,
      List.map_singleton, List.sum_append, List.sum_singleton,
      Publishing.unsettled]
    abel
  · intro n p hCall ticket hTicket
    rcases Pool.joined_cases hCall with hOld | ⟨hPlace, hNew⟩
    · exact h.own n p hOld ticket hTicket
    · subst hNew
      simp only [Publishing.unsettled, List.mem_singleton] at hTicket
      rw [hTicket, hPlace]
  · intro n fault hCall
    rcases Pool.joined_cases hCall with hOld | ⟨_, hNew⟩
    · exact h.faulted n fault hOld
    · exact absurd hNew (by simp)

/- A pass that begins keeps the books balanced. -/
theorem Balanced.flush
    {l : Ledger α σ}
    (h : l.Balanced) :
    (l.step store limit .flush).Balanced := by
  rw [step_flush]
  constructor
  · exact h.counted
  · exact h.numbered
  · rw [← h.conserved]
    simp [unsettled, held, shared, Flushing.held]
  · exact h.own
  · exact h.faulted

/-
  A step that accounts for the items in hand keeps the books
  balanced.
-/
theorem conserved_of_accounts
    {before after evicted : List (Ticket α)}
    {l : Ledger α σ}
    {s : Shared (Ticket α) (Audit (Ticket α) σ)}
    {inHand inHand' : Multiset (Ticket α)}
    (hConserved :
      inHand + l.shared.contents + l.evicted =
        (l.issued : Multiset (Ticket α)))
    (hAccounts : Shared.Accounts before after evicted l.shared s)
    (hHand : inHand' + before = inHand + after) :
    inHand' + s.contents + (l.evicted ++ evicted : List (Ticket α)) =
      (l.issued : Multiset (Ticket α)) := by
  have hStepped := hAccounts.conserved
  rw [← hConserved, ← Multiset.coe_add]
  apply add_right_cancel (b := (before : Multiset (Ticket α)))
  calc
    inHand' + s.contents + (l.evicted + evicted) + before =
        (inHand' + before) + s.contents + l.evicted + evicted := by
          abel
    _ = inHand + l.evicted + (evicted + after + s.contents) := by
          rw [hHand]
          abel
    _ = inHand + l.evicted + (before + l.shared.contents) := by
          rw [hStepped]
    _ = inHand + l.shared.contents + l.evicted + before := by
          abel

/- A step of a call keeps the books balanced. -/
theorem Balanced.advance
    {l : Ledger α σ}
    (h : l.Balanced)
    (n : Nat)
    (now : Instant) :
    (l.step store limit (.advance n now)).Balanced := by
  cases hCall : l.traffic.publishings[n]? with
  | none =>
      rw [step_advance_of_none hCall]
      exact h
  | some p =>
      have hAccounts :=
        Publishing.step_accounts store limit now p l.shared
      rw [step_advance hCall]
      constructor
      · simp only [List.length_append, ← h.counted]
        exact hAccounts.counted
      · simpa using h.numbered
      · have hHand :=
          Pool.sum_map_set
            (fun p => (Publishing.unsettled p : Multiset (Ticket α)))
            hCall (p.step store.audited limit now l.shared).1
        apply conserved_of_accounts h.conserved hAccounts
        simp only [unsettled, held]
        rw [add_right_comm, hHand, add_right_comm]
      · intro m q hAt ticket hTicket
        rcases Pool.stepped_cases hAt with ⟨hPlace, hNew⟩ | ⟨_, hOld⟩
        · subst hNew
          rw [hPlace]
          exact h.own n p hCall ticket
            (Publishing.unsettled_step_subset _ _ _ _ _ hTicket)
        · exact h.own m q hOld ticket hTicket
      · intro m fault hAt
        have hKept : ∀ k,
            (∃ ticket ∈ l.shared.store.refused, ticket.call = k) →
              ∃ ticket ∈
                (p.step store.audited limit now
                  l.shared).2.store.refused,
                ticket.call = k := by
          intro k hRefused
          rcases hRefused with ⟨ticket, hTicket, hNumber⟩
          exact ⟨ticket, hAccounts.kept hTicket, hNumber⟩
        rcases Pool.stepped_cases hAt with ⟨hPlace, hNew⟩ | ⟨_, hOld⟩
        · rw [hPlace]
          rcases Publishing.refused_of_step_fault hNew.symm with
            hDone | ⟨ticket, hHad, hRefused⟩
          · exact hKept n (h.faulted n fault (hDone ▸ hCall))
          · exact ⟨ticket, hRefused, h.own n p hCall ticket hHad⟩
        · exact hKept m (h.faulted m fault hOld)

/- A step of a pass keeps the books balanced. -/
theorem Balanced.retry
    {l : Ledger α σ}
    (h : l.Balanced)
    (n : Nat)
    (now : Instant) :
    (l.step store limit (.retry n now)).Balanced := by
  cases hPass : l.traffic.passes[n]? with
  | none =>
      rw [step_retry_of_none hPass]
      exact h
  | some f =>
      have hAccounts :=
        Flushing.step_accounts store limit now f l.shared
      rw [step_retry hPass]
      constructor
      · simp only [List.length_append, ← h.counted]
        exact hAccounts.counted
      · exact h.numbered
      · have hHand :=
          Pool.sum_map_set
            (fun f => (Flushing.held f : Multiset (Ticket α)))
            hPass (f.step store.audited limit now l.shared).1
        apply conserved_of_accounts h.conserved hAccounts
        simp only [unsettled, held]
        rw [add_assoc, hHand, ← add_assoc]
      · exact h.own
      · intro m fault hAt
        rcases h.faulted m fault hAt with ⟨ticket, hTicket, hNumber⟩
        exact ⟨ticket, hAccounts.kept hTicket, hNumber⟩

/- Every move keeps the books balanced. -/
theorem Balanced.step
    {l : Ledger α σ}
    (h : l.Balanced)
    (move : Traffic.Move α) :
    (l.step store limit move).Balanced := by
  cases move with
  | publish item policy => exact h.publish item policy
  | flush => exact h.flush
  | advance n now => exact h.advance n now
  | retry n now => exact h.retry n now

/- The books balance after any moves. -/
theorem balanced_run
    (store : Store α σ)
    (limit : Duration)
    (moves : List (Traffic.Move α))
    {l : Ledger α σ}
    (h : l.Balanced) :
    (l.run store limit moves).Balanced := by
  induction moves generalizing l with
  | nil => exact h
  | cons move rest ih => exact ih (h.step move)

end Ledger

------------------------------------------------------------
-- Stores that keep what they accept
------------------------------------------------------------

/-
  An append adds one entry if it succeeds and none if it
  fails, and a probe adds none.
-/
structure Store.AppendsOne
    {α σ : Type}
    (store : Store α σ)
    (entries : σ → Multiset α) : Prop where
  probed :
    ∀ limit s, entries (store.ping limit s).2 = entries s
  added :
    ∀ now item s id,
      (store.append now item s).1 = .ok id →
        entries (store.append now item s).2 = entries s + {item}
  failed :
    ∀ now item s fault,
      (store.append now item s).1 = .error fault →
        entries (store.append now item s).2 = entries s

/- The store that takes every item and keeps all of them. -/
def Store.list
    {α : Type} : Store α (List α) where
  ping := fun _ s => (.immediate (.ok ()), s)
  append := fun _ item s => (.ok "", s ++ [item])

/- The store that keeps all items adds one at a time. -/
theorem Store.appendsOne_list
    {α : Type} :
    (Store.list : Store α (List α)).AppendsOne (fun s => s) where
  probed := fun _ _ => rfl
  added := fun _ _ s _ _ => (Multiset.coe_add s _).symm
  failed := by
    intro now item s fault hFailed
    simp [Store.list] at hFailed

section Entries

variable {α σ : Type}
variable {store : Store α σ} {entries : σ → Multiset α}

/- A script in front of a store adds no entries of its own. -/
theorem Store.AppendsOne.scripted
    (hStore : store.AppendsOne entries) :
    (Scripted.store store).AppendsOne fun s => entries s.inner where
  probed := by
    intro limit s
    simp only [Scripted.store, Scripted.ping]
    split
    · exact hStore.probed limit s.inner
    · split
      · exact hStore.probed limit s.inner
      · rfl
      · rfl
  added := by
    intro now item s id
    simp only [Scripted.store, Scripted.append]
    split
    · exact hStore.added now item s.inner id
    · split
      · exact hStore.added now item s.inner id
      · simp
  failed := by
    intro now item s fault
    simp only [Scripted.store, Scripted.append]
    split
    · exact hStore.failed now item s.inner fault
    · split
      · exact hStore.failed now item s.inner fault
      · exact fun _ => rfl

/- The entries of a store are old ones, and those it accepted. -/
def Audit.Holds
    (entries : σ → Multiset α)
    (old : Multiset α)
    (s : Audit (Ticket α) σ) : Prop :=
  entries s.inner = old + (s.accepted.map (·.item) : List α)

/- A probe leaves the entries of a store alone. -/
theorem Store.AppendsOne.holds_probe
    (hStore : store.AppendsOne entries)
    {old : Multiset α}
    {s : Audit (Ticket α) σ}
    (hHolds : s.Holds entries old)
    (limit : Duration) :
    (store.audited.ping limit s).2.Holds entries old := by
  unfold Audit.Holds at hHolds ⊢
  simp only [Store.audited, hStore.probed]
  exact hHolds

/- An accepted item is an entry of the store. -/
theorem Store.AppendsOne.holds_append
    (hStore : store.AppendsOne entries)
    {old : Multiset α}
    {s : Audit (Ticket α) σ}
    (hHolds : s.Holds entries old)
    (now : Instant)
    (ticket : Ticket α) :
    (store.audited.append now ticket s).2.Holds entries old := by
  unfold Audit.Holds at hHolds ⊢
  simp only [Store.audited, Audit.inner_note]
  cases hAnswer : (store.append now ticket.item s.inner).1 with
  | ok id =>
      rw [hStore.added _ _ _ _ hAnswer, hHolds]
      simp [Audit.note, ← Multiset.coe_add, add_assoc]
  | error fault =>
      rw [hStore.failed _ _ _ _ hAnswer, hHolds]
      by_cases h : fault.isConnection <;> simp [Audit.note, h]

/- A step of a call changes the store by its operations only. -/
theorem Publishing.step_store
    {β τ : Type}
    {P : τ → Prop}
    {store : Store β τ}
    (hProbe : ∀ limit s, P s → P (store.ping limit s).2)
    (hAppend : ∀ now item s, P s → P (store.append now item s).2)
    (limit : Duration)
    (now : Instant)
    (p : Publishing β)
    {s : Shared β τ}
    (h : P s.store) :
    P (p.step store limit now s).2.store := by
  cases p with
  | probing item policy =>
      simp only [step, Store.check]
      split <;> exact hProbe _ _ h
  | appending item policy =>
      simp only [step]
      split
      · exact hAppend _ _ _ h
      · split <;> exact hAppend _ _ _ h
  | buffering item => exact h
  | done result => exact h

/- A step of a pass changes the store by its operations only. -/
theorem Flushing.step_store
    {β τ : Type}
    {P : τ → Prop}
    {store : Store β τ}
    (hProbe : ∀ limit s, P s → P (store.ping limit s).2)
    (hAppend : ∀ now item s, P s → P (store.append now item s).2)
    (limit : Duration)
    (now : Instant)
    (f : Flushing β)
    {s : Shared β τ}
    (h : P s.store) :
    P (f.step store limit now s).2.store := by
  cases f with
  | starting =>
      simp only [step]
      split <;> exact h
  | probing =>
      simp only [step, Store.check]
      split <;> exact hProbe _ _ h
  | skipping => exact h
  | taking => exact h
  | offering tally batch =>
      cases batch with
      | nil => exact h
      | cons item rest =>
          simp only [step]
          split
          · exact hAppend _ _ _ h
          · split <;> exact hAppend _ _ _ h
  | requeueing tally failed => exact h
  | measuring tally => exact h
  | done result => exact h

/- A move changes the store by its operations only. -/
theorem Traffic.step_store
    {β τ : Type}
    {P : τ → Prop}
    {store : Store β τ}
    (hProbe : ∀ limit s, P s → P (store.ping limit s).2)
    (hAppend : ∀ now item s, P s → P (store.append now item s).2)
    (limit : Duration)
    (move : Move β)
    {t : Traffic β τ}
    (h : P t.shared.store) :
    P (t.step store limit move).shared.store := by
  cases move with
  | publish item policy => exact h
  | flush => exact h
  | advance n now =>
      simp only [step]
      split
      · exact h
      · exact Publishing.step_store hProbe hAppend _ _ _ h
  | retry n now =>
      simp only [step]
      split
      · exact h
      · exact Flushing.step_store hProbe hAppend _ _ _ h

/- The entries of the store are those that it accepted. -/
theorem Ledger.holds_run
    (hStore : store.AppendsOne entries)
    (limit : Duration)
    (moves : List (Traffic.Move α))
    {old : Multiset α}
    {l : Ledger α σ}
    (h : l.shared.store.Holds entries old) :
    (l.run store limit moves).shared.store.Holds entries old := by
  induction moves generalizing l with
  | nil => exact h
  | cons move rest ih =>
      apply ih
      exact Traffic.step_store
        (P := fun s => Audit.Holds entries old s)
        (fun limit _ hHolds => hStore.holds_probe hHolds limit)
        (fun now item _ hHolds => hStore.holds_append hHolds now item)
        limit (l.ticketed move) h

end Entries

------------------------------------------------------------
-- Places
------------------------------------------------------------

namespace Ledger

variable {α σ : Type}
variable {store : Store α σ} {limit : Duration}

/- The item of a call is in one place, once, and nowhere else. -/
def OnlyIn
    (l : Ledger α σ)
    (place : Place)
    (call : Nat) : Prop :=
  l.occurrences place call = 1 ∧
    ∀ other, other ≠ place → l.occurrences other call = 0

/- How often the item of a call is among some items. -/
def countOf
    (call : Nat)
    (items : Multiset (Ticket α)) : Nat :=
  (items.map (·.call)).count call

@[simp]
theorem countOf_add
    (call : Nat)
    (items others : Multiset (Ticket α)) :
    countOf call (items + others) =
      countOf call items + countOf call others := by
  simp [countOf]

/- Counts in the hands of many add up. -/
theorem countOf_sum
    {β : Type}
    (call : Nat)
    (f : β → Multiset (Ticket α))
    (xs : List β) :
    countOf call (xs.map f).sum =
      (xs.map fun x => countOf call (f x)).sum := by
  induction xs with
  | nil => simp [countOf]
  | cons first rest ih => simp [ih]

/- An item is counted in its place. -/
theorem occurrences_eq_countOf
    (l : Ledger α σ)
    (place : Place)
    (call : Nat) :
    l.occurrences place call =
      countOf call (l.itemsIn place : Multiset (Ticket α)) := by
  simp [occurrences, countOf]

/- The items that a pass holds are counted with the pass. -/
theorem occurrences_held
    (l : Ledger α σ)
    (n call : Nat) :
    l.occurrences (.held n) call =
      (l.traffic.passes[n]?.map fun f =>
        countOf call (f.held : Multiset (Ticket α))).getD 0 := by
  rw [occurrences_eq_countOf]
  unfold itemsIn
  cases hPass : l.traffic.passes[n]? with
  | none => simp [hPass, countOf]
  | some f => simp [hPass]

/- The item of a call that was begun is counted once in all. -/
theorem Balanced.countOf_eq_one
    {l : Ledger α σ}
    (h : l.Balanced)
    {call : Nat}
    (hBegun : call < l.traffic.publishings.length) :
    countOf call l.unsettled +
        (l.traffic.passes.map fun f =>
          countOf call (f.held : Multiset (Ticket α))).sum +
        (l.occurrences .accepted call +
          l.occurrences .refused call +
          l.occurrences .waiting call) +
        l.occurrences .evicted call = 1 := by
  have hCount := congrArg (countOf call) h.conserved
  have hIssued :
      countOf call (l.issued : Multiset (Ticket α)) = 1 := by
    simp only [countOf, Multiset.map_coe, h.numbered,
      Multiset.coe_count]
    exact List.count_eq_one_of_mem List.nodup_range
      (List.mem_range.mpr hBegun)
  rw [hIssued] at hCount
  simp only [countOf_add, held, countOf_sum, Shared.contents] at hCount
  simp only [occurrences_eq_countOf]
  exact hCount

/- A call that has returned has no item in hand. -/
theorem Balanced.countOf_unsettled_eq_zero
    {l : Ledger α σ}
    (h : l.Balanced)
    {call : Nat}
    {result : Except OutboxFault Unit}
    (hDone : l.traffic.publishings[call]? = some (.done result)) :
    countOf call l.unsettled = 0 := by
  unfold unsettled
  rw [countOf_sum]
  apply List.sum_eq_zero
  intro count hCount
  rcases List.mem_map.mp hCount with ⟨p, hMember, rfl⟩
  rcases List.getElem?_of_mem hMember with ⟨n, hCall⟩
  simp only [countOf, Multiset.map_coe, Multiset.coe_count]
  apply List.count_eq_zero_of_not_mem
  intro hNumber
  rcases List.mem_map.mp hNumber with ⟨ticket, hTicket, hSame⟩
  have hOwn := h.own n p hCall ticket hTicket
  have hPlace : n = call := hOwn.symm.trans hSame
  rw [hPlace, hDone] at hCall
  have hReturned : Publishing.done result = p := Option.some.inj hCall
  rw [← hReturned] at hTicket
  simp [Publishing.unsettled] at hTicket

/- The item of a call that has returned is in one place only. -/
theorem Balanced.exists_onlyIn
    {l : Ledger α σ}
    (h : l.Balanced)
    {call : Nat}
    {result : Except OutboxFault Unit}
    (hDone : l.traffic.publishings[call]? = some (.done result)) :
    ∃ place, l.OnlyIn place call := by
  have hBegun := (List.getElem?_eq_some_iff.mp hDone).1
  have hTotal := h.countOf_eq_one hBegun
  rw [h.countOf_unsettled_eq_zero hDone] at hTotal
  by_cases hHeld :
      (l.traffic.passes.map fun f =>
        countOf call (f.held : Multiset (Ticket α))).sum = 0
  · have hPasses : ∀ n, l.occurrences (.held n) call = 0 := by
      intro n
      rw [occurrences_held]
      exact Pool.eq_zero_of_sum_map_eq_zero hHeld n
    have hOne :
        ∃ place,
          l.occurrences place call = 1 ∧
            (place = .accepted ∨ place = .waiting ∨
              place = .evicted ∨ place = .refused) := by
      by_cases hAccepted : l.occurrences .accepted call = 1
      · exact ⟨.accepted, hAccepted, by simp⟩
      · by_cases hWaiting : l.occurrences .waiting call = 1
        · exact ⟨.waiting, hWaiting, by simp⟩
        · by_cases hEvicted : l.occurrences .evicted call = 1
          · exact ⟨.evicted, hEvicted, by simp⟩
          · exact ⟨.refused, by omega, by simp⟩
    rcases hOne with ⟨place, hOnce, hKind⟩
    refine ⟨place, hOnce, ?_⟩
    intro other hOther
    cases other with
    | held n => exact hPasses n
    | accepted => grind
    | waiting => grind
    | evicted => grind
    | refused => grind
  · have hSum :
        (l.traffic.passes.map fun f =>
          countOf call (f.held : Multiset (Ticket α))).sum = 1 := by
      omega
    rcases Pool.exists_only_of_sum_map_eq_one hSum with
      ⟨n, hOnce, hOthers⟩
    refine ⟨.held n, by rw [occurrences_held]; exact hOnce, ?_⟩
    intro other hOther
    cases other with
    | held m =>
        rw [occurrences_held]
        exact hOthers m (fun hSame => hOther (by rw [hSame]))
    | accepted => omega
    | waiting => omega
    | evicted => omega
    | refused => omega

/- The items handed in are those of the moves, in order. -/
theorem issued_run
    (store : Store α σ)
    (limit : Duration)
    (moves : List (Traffic.Move α))
    (l : Ledger α σ) :
    (l.run store limit moves).issued.map (·.item) =
      l.issued.map (·.item) ++ moves.flatMap (·.items) := by
  induction moves generalizing l with
  | nil => simp [run]
  | cons move rest ih =>
      rw [run, ih]
      cases move <;>
        simp [step, ticketed, Traffic.Move.map, Traffic.Move.items]

/- An item in a place was handed in. -/
theorem Balanced.mem_issued
    {l : Ledger α σ}
    (h : l.Balanced)
    {place : Place}
    {ticket : Ticket α}
    (hTicket : ticket ∈ l.itemsIn place) :
    ticket ∈ l.issued := by
  have hSome :
      ticket ∈
        l.unsettled + l.held + l.shared.contents + l.evicted := by
    cases place with
    | held n =>
        cases hPass : l.traffic.passes[n]? with
        | none => simp [itemsIn, hPass] at hTicket
        | some f =>
            have hHeld : ticket ∈ f.held := by
              simpa [itemsIn, hPass] using hTicket
            have hPasses : ticket ∈ l.held :=
              Pool.mem_sum_map (List.mem_of_getElem? hPass)
                (Multiset.mem_coe.mpr hHeld)
            simp [hPasses]
    | accepted =>
        have hContents : ticket ∈ l.shared.store.accepted := hTicket
        simp [Shared.contents, hContents]
    | waiting =>
        have hContents : ticket ∈ l.shared.buffer.items := hTicket
        simp [Shared.contents, hContents]
    | evicted =>
        have hEvicted : ticket ∈ l.evicted := hTicket
        simp [hEvicted]
    | refused =>
        have hContents : ticket ∈ l.shared.store.refused := hTicket
        simp [Shared.contents, hContents]
  rw [h.conserved] at hSome
  exact Multiset.mem_coe.mp hSome

/- An item in a place is the one that its call handed in. -/
theorem Balanced.item_eq
    {l : Ledger α σ}
    (h : l.Balanced)
    {place : Place}
    {ticket : Ticket α}
    (hTicket : ticket ∈ l.itemsIn place) :
    (l.issued.map (·.item))[ticket.call]? = some ticket.item := by
  rcases List.getElem?_of_mem (h.mem_issued hTicket) with ⟨n, hAt⟩
  have hNumber :
      (List.range l.traffic.publishings.length)[n]? =
        some ticket.call := by
    rw [← h.numbered, List.getElem?_map, hAt]
    rfl
  have hCall : n = ticket.call := by
    rcases List.getElem?_eq_some_iff.mp hNumber with ⟨hBound, hSame⟩
    rwa [List.getElem_range] at hSame
  rw [List.getElem?_map, ← hCall, hAt]
  rfl

/-
  Whatever the store answers, and in whatever order any number
  of calls and passes take their steps on one outbox:
    * the item of a call that returned without a fault is in
      exactly one place, and there once;
    * the item of a call that returned a fault was refused,
      and is in no other place;
    * what is in a place under the number of a call is the
      item that this call handed in;
    * as many items made way as the buffer counted;
    * a store that keeps what it accepts has exactly the
      accepted items as its new entries.
  The calls and passes act as they do without a ledger.
-/
theorem returned_only_in_one_place
    (store : Store α σ)
    (limit : Duration)
    (capacity : Nat)
    (s : σ)
    (moves : List (Traffic.Move α)) :
    let l := (create capacity s : Ledger α σ).run store limit moves
    l.forget = (Traffic.create capacity s).run store limit moves ∧
      (∀ call,
        l.traffic.publishings[call]? = some (.done (.ok ())) →
          ∃ place, l.OnlyIn place call) ∧
      (∀ call fault,
        l.traffic.publishings[call]? = some (.done (.error fault)) →
          l.OnlyIn .refused call) ∧
      (∀ place, ∀ ticket ∈ l.itemsIn place,
        (moves.flatMap (·.items))[ticket.call]? =
          some ticket.item) ∧
      (l.itemsIn .evicted).length = l.shared.buffer.evicted ∧
      (∀ entries, store.AppendsOne entries →
        entries l.shared.store.inner =
          entries s +
            ((l.itemsIn .accepted).map (·.item) : List α)) := by
  intro l
  have hBalanced : l.Balanced :=
    balanced_run store limit moves (balanced_create capacity s)
  have hIssued :
      l.issued.map (·.item) = moves.flatMap (·.items) :=
    issued_run store limit moves (create capacity s)
  refine ⟨?_, ?_, ?_, ?_, ?_, ?_⟩
  · exact forget_run store limit moves (create capacity s)
  · intro call hDone
    exact hBalanced.exists_onlyIn hDone
  · intro call fault hDone
    rcases hBalanced.exists_onlyIn hDone with ⟨place, hOnly⟩
    rcases hBalanced.faulted call fault hDone with
      ⟨ticket, hRefused, hCall⟩
    have hCounted : 0 < l.occurrences .refused call :=
      List.count_pos_iff.mpr (List.mem_map.mpr ⟨ticket, hRefused, hCall⟩)
    have hPlace : place = .refused := by
      by_contra hOther
      have := hOnly.2 .refused (fun hSame => hOther hSame.symm)
      omega
    exact hPlace ▸ hOnly
  · intro place ticket hTicket
    rw [← hIssued]
    exact hBalanced.item_eq hTicket
  · exact hBalanced.counted.symm
  · intro entries hStore
    exact holds_run hStore limit moves
      (l := create capacity s)
      (by simp [Audit.Holds, create, shared, Traffic.create])

/-
  Four calls on an outbox with room for one item.  The first
  item is taken by a pass while the second starts to wait.  The
  pass puts the first back, which makes way for the second.
  The third is refused, and the fourth accepted.
-/
def crowdedMoves : List (Traffic.Move String) :=
  [ .publish "first" .required
  , .advance 0 ⟨0⟩, .advance 0 ⟨0⟩
  , .flush
  , .retry 0 ⟨0⟩, .retry 0 ⟨0⟩, .retry 0 ⟨0⟩
  , .publish "second" .required
  , .advance 1 ⟨0⟩, .advance 1 ⟨0⟩
  , .retry 0 ⟨0⟩, .retry 0 ⟨0⟩
  , .publish "third" .required
  , .advance 2 ⟨0⟩, .advance 2 ⟨0⟩
  , .publish "fourth" .bestEffort
  , .advance 3 ⟨0⟩, .advance 3 ⟨0⟩ ]

/- A store that is away at times, and refuses one item. -/
def crowdedScript : Scripted (List String) :=
  (Scripted.create []).cue
    [ .fail (.unavailable "away"), .pass
    , .fail (.unavailable "away"), .pass ]
    [ .fail (.unavailable "away"), .fail (.rejected "full") ]

/- Evicted, refused and accepted items are each in one place. -/
theorem crowded_only_in_one_place :
    let l :=
      (create 1 crowdedScript).run (Scripted.store .list) ⟨1000⟩
        crowdedMoves
    l.traffic.publishings[0]? = some (.done (.ok ())) ∧
      l.traffic.publishings[2]? =
        some (.done (.error (.append (.rejected "full")))) ∧
      ⟨0, "first"⟩ ∈ l.itemsIn .evicted ∧
      (∃ place, l.OnlyIn place 0) ∧
      l.OnlyIn .refused 2 ∧
      (crowdedMoves.flatMap (·.items))[0]? = some "first" ∧
      (l.shared.store.inner.inner : Multiset String) =
        (crowdedScript.inner : Multiset String) +
          ((l.itemsIn .accepted).map (·.item) : List String) := by
  have h :=
    returned_only_in_one_place (Scripted.store .list) ⟨1000⟩ 1
      crowdedScript crowdedMoves
  have hEvicted :
      ⟨0, "first"⟩ ∈
        ((create 1 crowdedScript).run (Scripted.store .list) ⟨1000⟩
          crowdedMoves).itemsIn .evicted :=
    List.mem_singleton.mpr rfl
  exact
    ⟨rfl, rfl, hEvicted, h.2.1 0 rfl, h.2.2.1 2 _ rfl,
      h.2.2.2.1 .evicted _ hEvicted,
      h.2.2.2.2.2 _ (Store.appendsOne_list.scripted)⟩

end Ledger

end Courier
