import Courier.Proofs.Outbox.Traffic

/-
  This file defines a ledger of the traffic on an outbox.  Two
  calls may hand in equal items, so each item bears the number
  of its call.  The ledger keeps the items that the store
  accepted, those that it refused, and those that made way in
  the buffer.

  The ledger only watches: without the numbers, its traffic is
  the traffic on the store itself.

  Key definitions include:
    * `Ticket`
    * `Store.audited`
    * `Ledger`
    * `Ledger.run`
    * `Ledger.itemsIn`

  Main statements:
    * `Ledger.forget_run`
-/

namespace Courier

------------------------------------------------------------
-- Tickets
------------------------------------------------------------

/- An item, with the number of the call that handed it in. -/
structure Ticket (α : Type) where
  call : Nat
  item : α
  deriving DecidableEq

/- The state of a store, and what it said about items. -/
structure Audit (α σ : Type) where
  inner : σ
  /- The items that the store accepted, oldest first. -/
  accepted : List α
  /- The items that a reachable store refused. -/
  refused : List α

/- Keep what a store says about an item. -/
def Audit.note
    {α σ : Type}
    (s : Audit α σ)
    (item : α) : Except StoreFault String → Audit α σ
  | .ok _ => { s with accepted := s.accepted ++ [item] }
  | .error fault =>
      if fault.isConnection then
        s
      else
        { s with refused := s.refused ++ [item] }

/- A store that keeps the tickets of the items it settled. -/
def Store.audited
    {α σ : Type}
    (store : Store α σ) : Store (Ticket α) (Audit (Ticket α) σ) where
  ping := fun limit s =>
    let (probe, inner) := store.ping limit s.inner
    (probe, { s with inner := inner })
  append := fun now ticket s =>
    let (answer, inner) := store.append now ticket.item s.inner
    (answer, { s with inner := inner }.note ticket answer)

------------------------------------------------------------
-- Ledgers
------------------------------------------------------------

/- The traffic on an outbox, and where its items went. -/
structure Ledger (α σ : Type) where
  traffic : Traffic (Ticket α) (Audit (Ticket α) σ)
  /- The items handed in, in the order of their calls. -/
  issued : List (Ticket α)
  /- The items that made way in the buffer. -/
  evicted : List (Ticket α)

/- Where an item can be once its call has returned. -/
inductive Place where
  /- The store accepted it. -/
  | accepted
  /- It waits in the buffer. -/
  | waiting
  /- The pass with a number holds it. -/
  | held (pass : Nat)
  /- It made way in the buffer. -/
  | evicted
  /- The store refused it. -/
  | refused
  deriving DecidableEq, Repr

namespace Ledger

variable {α σ : Type}

/- The ledger of an outbox that nobody has used yet. -/
def create
    (capacity : Nat)
    (s : σ) : Ledger α σ where
  traffic :=
    .create capacity { inner := s, accepted := [], refused := [] }
  issued := []
  evicted := []

/- A move, with the number of the next call on its item. -/
def ticketed
    (l : Ledger α σ)
    (move : Traffic.Move α) : Traffic.Move (Ticket α) :=
  move.map fun item => ⟨l.traffic.publishings.length, item⟩

/- Make a move, and keep where items go. -/
def step
    (store : Store α σ)
    (limit : Duration)
    (move : Traffic.Move α)
    (l : Ledger α σ) : Ledger α σ where
  traffic := l.traffic.step store.audited limit (l.ticketed move)
  issued := l.issued ++ (l.ticketed move).items
  evicted := l.evicted ++ l.traffic.evicting move

/- Make some moves, one after the other. -/
def run
    (store : Store α σ)
    (limit : Duration) :
    List (Traffic.Move α) → Ledger α σ → Ledger α σ
  | [], l => l
  | move :: rest, l => run store limit rest (step store limit move l)

/- What the calls and the passes share. -/
def shared
    (l : Ledger α σ) : Shared (Ticket α) (Audit (Ticket α) σ) :=
  l.traffic.shared

/- The items in a place. -/
def itemsIn
    (l : Ledger α σ) : Place → List (Ticket α)
  | .accepted => l.shared.store.accepted
  | .waiting => l.shared.buffer.items
  | .held n => (l.traffic.passes[n]?.map Flushing.held).getD []
  | .evicted => l.evicted
  | .refused => l.shared.store.refused

/- How often the item of a call is in a place. -/
def occurrences
    (l : Ledger α σ)
    (place : Place)
    (call : Nat) : Nat :=
  ((l.itemsIn place).map (·.call)).count call

end Ledger

------------------------------------------------------------
-- Single moves
------------------------------------------------------------

namespace Ledger

variable {α σ : Type}
variable {store : Store α σ} {limit : Duration} {l : Ledger α σ}

/- A call that hands an item in. -/
theorem step_publish
    (item : α)
    (policy : EmitPolicy) :
    l.step store limit (.publish item policy) =
      { traffic :=
          { l.traffic with
            publishings :=
              l.traffic.publishings ++
                [.probing ⟨l.traffic.publishings.length, item⟩ policy] }
        issued :=
          l.issued ++ [⟨l.traffic.publishings.length, item⟩]
        evicted := l.evicted } := by
  simp [step, ticketed, Traffic.step, Traffic.Move.map,
    Traffic.Move.items, Traffic.evicting]

/- A pass that begins. -/
theorem step_flush :
    l.step store limit .flush =
      { traffic :=
          { l.traffic with passes := l.traffic.passes ++ [.starting] }
        issued := l.issued
        evicted := l.evicted } := by
  simp [step, ticketed, Traffic.step, Traffic.Move.map,
    Traffic.Move.items, Traffic.evicting]

/- A step of a call. -/
theorem step_advance
    {n : Nat}
    {p : Publishing (Ticket α)}
    (hCall : l.traffic.publishings[n]? = some p)
    (now : Instant) :
    l.step store limit (.advance n now) =
      { traffic :=
          { l.traffic with
            shared := (p.step store.audited limit now l.shared).2
            publishings :=
              l.traffic.publishings.set n
                (p.step store.audited limit now l.shared).1 }
        issued := l.issued
        evicted := l.evicted ++ p.evicting l.shared } := by
  simp [step, ticketed, Traffic.step, Traffic.Move.map,
    Traffic.Move.items, Traffic.evicting, hCall, shared]

/- A call that has not begun takes no step. -/
theorem step_advance_of_none
    {n : Nat}
    (hCall : l.traffic.publishings[n]? = none)
    (now : Instant) :
    l.step store limit (.advance n now) = l := by
  simp [step, ticketed, Traffic.step, Traffic.Move.map,
    Traffic.Move.items, Traffic.evicting, hCall]

/- A step of a pass. -/
theorem step_retry
    {n : Nat}
    {f : Flushing (Ticket α)}
    (hPass : l.traffic.passes[n]? = some f)
    (now : Instant) :
    l.step store limit (.retry n now) =
      { traffic :=
          { l.traffic with
            shared := (f.step store.audited limit now l.shared).2
            passes :=
              l.traffic.passes.set n
                (f.step store.audited limit now l.shared).1 }
        issued := l.issued
        evicted := l.evicted ++ f.evicting l.shared } := by
  simp [step, ticketed, Traffic.step, Traffic.Move.map,
    Traffic.Move.items, Traffic.evicting, hPass, shared]

/- A pass that has not begun takes no step. -/
theorem step_retry_of_none
    {n : Nat}
    (hPass : l.traffic.passes[n]? = none)
    (now : Instant) :
    l.step store limit (.retry n now) = l := by
  simp [step, ticketed, Traffic.step, Traffic.Move.map,
    Traffic.Move.items, Traffic.evicting, hPass]

end Ledger

------------------------------------------------------------
-- Forgetting tickets
------------------------------------------------------------

section Forget

variable {α β σ : Type}

/- A buffer with other items. -/
def Buffer.map
    (f : α → β)
    (b : Buffer α) : Buffer β :=
  { b with
    items := b.items.map f
    fits := (List.length_map f).symm ▸ b.fits }

/- A call with another item. -/
def Publishing.map
    (f : α → β) : Publishing α → Publishing β
  | probing item policy => probing (f item) policy
  | appending item policy => appending (f item) policy
  | buffering item => buffering (f item)
  | done result => done result

/- A pass with other items. -/
def Flushing.map
    (f : α → β) : Flushing α → Flushing β
  | starting => starting
  | probing => probing
  | skipping => skipping
  | taking => taking
  | offering tally batch => offering tally (batch.map f)
  | requeueing tally failed => requeueing tally (failed.map f)
  | measuring tally => measuring tally
  | done result => done result

/- What is shared, without tickets. -/
def Shared.forget
    (s : Shared (Ticket α) (Audit (Ticket α) σ)) : Shared α σ where
  store := s.store.inner
  buffer := s.buffer.map (·.item)

/- The traffic of a ledger, without tickets. -/
def Ledger.forget
    (l : Ledger α σ) : Traffic α σ where
  shared := l.shared.forget
  publishings := l.traffic.publishings.map (.map (·.item))
  passes := l.traffic.passes.map (.map (·.item))

/- Filling a buffer anew does not look at the items. -/
theorem Buffer.refill_map
    (f : α → β)
    (b : Buffer α)
    (items : List α) :
    ((b.map f).refill (items.map f)).2 = (b.refill items).2.map f := by
  simp [refill, map, List.map_drop]

/- Putting items back does not look at them. -/
theorem Buffer.requeue_map
    (f : α → β)
    (b : Buffer α)
    (failed : List α) :
    ((b.map f).requeue (failed.map f)).2 = (b.requeue failed).2.map f := by
  cases failed with
  | nil => rfl
  | cons first rest =>
      have h := refill_map f b (first :: rest ++ b.items)
      rw [List.map_append] at h
      exact h

/- What a store notes changes nothing in the store itself. -/
@[simp]
theorem Audit.inner_note
    (s : Audit α σ)
    (item : α)
    (answer : Except StoreFault String) :
    (s.note item answer).inner = s.inner := by
  unfold note
  split
  · rfl
  · split <;> rfl

/- A step of a call does not look at tickets. -/
theorem Publishing.step_forget
    (store : Store α σ)
    (limit : Duration)
    (now : Instant)
    (p : Publishing (Ticket α))
    (s : Shared (Ticket α) (Audit (Ticket α) σ)) :
    (p.map (·.item)).step store limit now s.forget =
      ((p.step store.audited limit now s).1.map (·.item),
        (p.step store.audited limit now s).2.forget) := by
  cases p with
  | probing ticket policy =>
      simp only [map, step, Store.check, Store.audited, Shared.forget]
      split <;> rfl
  | appending ticket policy =>
      simp only [map, step, Store.audited, Shared.forget]
      split
      · simp
      · split <;> simp
  | buffering ticket =>
      have hPush :=
        Buffer.refill_map (·.item) s.buffer (s.buffer.items ++ [ticket])
      rw [List.map_append] at hPush
      simp only [map, step, Shared.forget, Buffer.push_snd, ← hPush]
      rfl
  | done result => rfl

/- A step of a pass does not look at tickets. -/
theorem Flushing.step_forget
    (store : Store α σ)
    (limit : Duration)
    (now : Instant)
    (f : Flushing (Ticket α))
    (s : Shared (Ticket α) (Audit (Ticket α) σ)) :
    (f.map (·.item)).step store limit now s.forget =
      ((f.step store.audited limit now s).1.map (·.item),
        (f.step store.audited limit now s).2.forget) := by
  cases f with
  | starting =>
      have hEmpty :
          s.forget.buffer.isEmpty = s.buffer.isEmpty := by
        simp [Shared.forget, Buffer.isEmpty, Buffer.map]
      by_cases h : s.buffer.isEmpty
      · simp [map, step, hEmpty, h]
      · simp [map, step, hEmpty, h]
  | probing =>
      simp only [map, step, Store.check, Store.audited, Shared.forget]
      split <;> rfl
  | skipping =>
      simp [map, step, Shared.forget, Buffer.length, Buffer.map]
  | taking =>
      simp [map, step, Shared.forget, Buffer.takeAll, Buffer.map]
  | offering tally batch =>
      cases batch with
      | nil => rfl
      | cons ticket rest =>
          simp only [map, step, Store.audited, Shared.forget,
            List.map_cons]
          split
          · simp
          · split <;> simp
  | requeueing tally failed =>
      simp only [map, step, Shared.forget, Buffer.requeue_map]
  | measuring tally =>
      simp [map, step, Shared.forget, Buffer.length, Buffer.map]
  | done result => rfl

/- A move does not look at tickets. -/
theorem Ledger.forget_step
    (store : Store α σ)
    (limit : Duration)
    (move : Traffic.Move α)
    (l : Ledger α σ) :
    (l.step store limit move).forget =
      l.forget.step store limit move := by
  cases move with
  | publish item policy =>
      simp [step, ticketed, forget, Traffic.step, Traffic.Move.map,
        Publishing.map, shared]
  | flush =>
      simp [step, ticketed, forget, Traffic.step, Traffic.Move.map,
        Flushing.map, shared]
  | advance n now =>
      simp only [step, ticketed, Traffic.step, Traffic.Move.map,
        forget, shared, List.getElem?_map]
      cases hCall : l.traffic.publishings[n]? with
      | none => rfl
      | some p =>
          simp only [Option.map_some, Publishing.step_forget,
            List.map_set]
  | retry n now =>
      simp only [step, ticketed, Traffic.step, Traffic.Move.map,
        forget, shared, List.getElem?_map]
      cases hPass : l.traffic.passes[n]? with
      | none => rfl
      | some f =>
          simp only [Option.map_some, Flushing.step_forget,
            List.map_set]

/-
  Without tickets, the traffic of a ledger is the traffic on
  the store itself.
-/
theorem Ledger.forget_run
    (store : Store α σ)
    (limit : Duration)
    (moves : List (Traffic.Move α))
    (l : Ledger α σ) :
    (l.run store limit moves).forget =
      l.forget.run store limit moves := by
  induction moves generalizing l with
  | nil => rfl
  | cons move rest ih =>
      simp only [run, Traffic.run]
      rw [ih, forget_step]

end Forget

end Courier
