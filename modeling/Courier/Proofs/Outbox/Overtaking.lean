import Courier.Proofs.Outbox.MemoryStore
import Courier.Proofs.Outbox.Overlap

/-
  Calls that are made one after the other.  The items that the
  store accepted stand in the order of their calls, but for one
  thing: a call that reaches the store appends its own item at
  once, whatever waits in the buffer.  Such an item overtakes
  those that wait, and stands before each of them that is
  appended later.

  A chronicle of the traffic on an outbox keeps which items
  overtook which.

  Key definitions include:
    * `Traffic.Alone`
    * `Publishing.overtaking`
    * `Chronicle`
    * `Chronicle.InOrder`
    * `Store.KeepsNewest`

  Main statements:
    * `Chronicle.InOrder.ahead_advance`
    * `Chronicle.InOrder.step`, `Chronicle.inOrder_run`
    * `MemoryStore.keepsNewest`
    * `Chronicle.appended_in_call_order`
    * `Chronicle.recovered_out_of_order`
-/

namespace Courier

------------------------------------------------------------
-- Calls one after the other
------------------------------------------------------------

/- Whether a call has returned. -/
def Publishing.isDone
    {α : Type} : Publishing α → Bool
  | done _ => true
  | _ => false

/- Whether a pass is over. -/
def Flushing.isDone
    {α : Type} : Flushing α → Bool
  | done _ => true
  | _ => false

/- Whether a call has returned does not depend on its item. -/
theorem Publishing.isDone_map
    {α β : Type}
    (g : α → β)
    (p : Publishing α) :
    (p.map g).isDone = p.isDone := by
  cases p with
  | _ => rfl

/- Whether a pass is over does not depend on its items. -/
theorem Flushing.isDone_map
    {α β : Type}
    (g : α → β)
    (f : Flushing α) :
    (f.map g).isDone = f.isDone := by
  cases f with
  | _ => rfl

/- A call that has returned has no item in hand. -/
theorem Publishing.isDone_of_mem_unsettled
    {α : Type}
    {p : Publishing α}
    {item : α}
    (hItem : item ∈ p.unsettled) :
    p.isDone = false := by
  cases p with
  | done result => cases hItem
  | _ => rfl

/- A pass that is over holds nothing. -/
theorem Flushing.held_of_isDone
    {α : Type}
    {f : Flushing α}
    (hDone : f.isDone = true) :
    f.held = [] := by
  cases f with
  | done result => rfl
  | _ => exact absurd hDone Bool.false_ne_true

namespace Traffic

variable {α σ : Type}

/- How many calls and passes have not ended. -/
def unfinished
    (t : Traffic α σ) : Nat :=
  (t.publishings.filter (!·.isDone)).length +
    (t.passes.filter (!·.isDone)).length

/- At most one call or pass has not ended. -/
def Alone
    (t : Traffic α σ) : Prop :=
  t.unfinished ≤ 1

instance decidableAlone
    (t : Traffic α σ) :
    Decidable t.Alone :=
  inferInstanceAs (Decidable (_ ≤ _))

/- Tickets do not matter to whether calls have ended. -/
theorem alone_of_forget
    {l : Ledger α σ}
    (hAlone : l.forget.Alone) :
    l.traffic.Alone := by
  unfold Alone unfinished Ledger.forget at hAlone
  simp only [List.filter_map, List.length_map, Function.comp_def,
    Publishing.isDone_map, Flushing.isDone_map] at hAlone
  exact hAlone

/- A pass on its own is the only one to hold anything. -/
theorem Alone.holdsApart
    {t : Traffic α σ}
    (hAlone : t.Alone)
    (p : α → Bool) :
    t.HoldsApart p := by
  have hHolds :
      ∀ f : Flushing α, f.holds p = true → (!f.isDone) = true := by
    intro f hHolds
    by_contra hDone
    have hOver : f.isDone = true := by simpa using hDone
    simp [Flushing.holds, Flushing.held_of_isDone hOver] at hHolds
  have hPasses : (t.passes.filter (!·.isDone)).length ≤ 1 :=
    (Nat.le_add_left _ _).trans hAlone
  exact
    (List.monotone_filter_right t.passes hHolds).length_le.trans hPasses

/- While a call has an item in hand, no pass has any. -/
theorem Alone.untried_eq_nil
    {t : Traffic α σ}
    (hAlone : t.Alone)
    {n : Nat}
    {p : Publishing α}
    (hCall : t.publishings[n]? = some p)
    (hUnderWay : p.isDone = false) :
    t.untried = [] := by
  have hCounted : p ∈ t.publishings.filter (!·.isDone) :=
    List.mem_filter.mpr
      ⟨List.mem_of_getElem? hCall, by simp [hUnderWay]⟩
  have hPos := List.length_pos_of_mem hCounted
  have hPasses : (t.passes.filter (!·.isDone)).length = 0 := by
    unfold Alone unfinished at hAlone
    omega
  rw [List.length_eq_zero_iff, List.filter_eq_nil_iff] at hPasses
  apply List.flatMap_eq_nil_iff.mpr
  intro f hMember
  have hOver := hPasses f hMember
  exact Flushing.held_of_isDone (by simpa using hOver)

/- A call that begins on its own finds all others ended. -/
theorem Alone.isDone_of_joined
    {t : Traffic α σ}
    {p : Publishing α}
    (hAlone :
      Alone { t with publishings := t.publishings ++ [p] })
    (hUnderWay : p.isDone = false)
    {q : Publishing α}
    (hMember : q ∈ t.publishings) :
    q.isDone = true := by
  by_contra hOther
  have hCounted : q ∈ t.publishings.filter (!·.isDone) :=
    List.mem_filter.mpr ⟨hMember, by simpa using hOther⟩
  have hPos := List.length_pos_of_mem hCounted
  simp only [Alone, unfinished, List.filter_append,
    List.length_append, List.filter_cons, hUnderWay,
    Bool.not_false, if_true, List.filter_nil,
    List.length_singleton] at hAlone
  omega

end Traffic

------------------------------------------------------------
-- Where items are
------------------------------------------------------------

namespace Ledger

variable {α σ : Type}
variable {l : Ledger α σ}

/- An item in a place is counted there. -/
theorem occurrences_pos
    {place : Place}
    {ticket : Ticket α}
    (hTicket : ticket ∈ l.itemsIn place) :
    0 < l.occurrences place ticket.call :=
  List.count_pos_iff.mpr (List.mem_map_of_mem hTicket)

/- An item in line is held by a pass, or waits. -/
theorem exists_place_of_mem_line
    {ticket : Ticket α}
    (hLine : ticket ∈ l.line) :
    ∃ place, ticket ∈ l.itemsIn place := by
  rcases List.mem_append.mp hLine with hUntried | hWaits
  · rcases List.mem_flatMap.mp hUntried with ⟨f, hMember, hHeld⟩
    rcases List.mem_iff_getElem?.mp hMember with ⟨n, hPass⟩
    refine ⟨.held n, ?_⟩
    simpa [itemsIn, hPass] using hHeld
  · exact ⟨.waiting, hWaits⟩

/- An item that a call has in hand is in no place yet. -/
theorem Balanced.occurrences_of_unsettled
    (h : l.Balanced)
    {n : Nat}
    {p : Publishing (Ticket α)}
    (hCall : l.traffic.publishings[n]? = some p)
    {ticket : Ticket α}
    (hTicket : ticket ∈ p.unsettled)
    (place : Place) :
    l.occurrences place ticket.call = 0 := by
  have hOwn := h.own n p hCall ticket hTicket
  have hBegun : ticket.call < l.traffic.publishings.length := by
    rw [hOwn]
    exact (List.getElem?_eq_some_iff.mp hCall).1
  have hTotal := h.countOf_eq_one hBegun
  have hUnsettled : ticket ∈ l.unsettled :=
    Pool.mem_sum_map (List.mem_of_getElem? hCall)
      (Multiset.mem_coe.mpr hTicket)
  have hPos : 0 < countOf ticket.call l.unsettled :=
    Multiset.count_pos.mpr (Multiset.mem_map_of_mem _ hUnsettled)
  cases place with
  | held m =>
      rw [occurrences_held]
      exact Pool.eq_zero_of_sum_map_eq_zero (by omega) m
  | accepted => omega
  | waiting => omega
  | evicted => omega
  | refused => omega

/-
  Every item in a place was handed in before the one that the
  latest call has in hand.
-/
theorem Balanced.call_lt_of_unsettled
    (h : l.Balanced)
    {n : Nat}
    {p : Publishing (Ticket α)}
    (hCall : l.traffic.publishings[n]? = some p)
    (hLatest : n + 1 = l.traffic.publishings.length)
    {ticket : Ticket α}
    (hTicket : ticket ∈ p.unsettled)
    {place : Place}
    {older : Ticket α}
    (hOlder : older ∈ l.itemsIn place) :
    older.call < ticket.call := by
  have hOwn := h.own n p hCall ticket hTicket
  have hBegun := h.call_lt (h.mem_issued hOlder)
  have hNone := h.occurrences_of_unsettled hCall hTicket place
  have hPos := occurrences_pos hOlder
  have hOther : older.call ≠ ticket.call := by
    intro hSame
    rw [hSame] at hPos
    omega
  omega

/- The store has not accepted an item that waits. -/
theorem Balanced.not_accepted_of_waiting
    (h : l.Balanced)
    {ticket : Ticket α}
    (hWaits : ticket ∈ l.itemsIn .waiting) :
    ticket ∉ l.itemsIn .accepted := by
  intro hAccepted
  have hTotal := h.countOf_eq_one (h.call_lt (h.mem_issued hWaits))
  have hPos := occurrences_pos hWaits
  have hPos' := occurrences_pos hAccepted
  omega

end Ledger

------------------------------------------------------------
-- Overtaken items
------------------------------------------------------------

section Steps

variable {α σ : Type}

/-
  The item that a call appends in its next step, with each one
  that waits meanwhile.
-/
def Publishing.overtaking
    (store : Store α σ)
    (now : Instant)
    (s : Shared α σ)
    (p : Publishing α) : List (α × α) :=
  (p.inlining store now s).flatMap fun item =>
    s.buffer.items.map fun older => (item, older)

/- The items that are overtaken in a move. -/
def Traffic.overtaking
    {β : Type}
    (store : Store α σ)
    (t : Traffic α σ) : Move β → List (α × α)
  | .advance n now =>
      match t.publishings[n]? with
      | none => []
      | some p => p.overtaking store now t.shared
  | _ => []

theorem Publishing.mem_overtaking_iff
    {store : Store α σ}
    {now : Instant}
    {s : Shared α σ}
    {p : Publishing α}
    {item older : α} :
    (item, older) ∈ p.overtaking store now s ↔
      item ∈ p.inlining store now s ∧ older ∈ s.buffer.items := by
  simp [overtaking]

/- A call appends no item but its own. -/
theorem Publishing.inlining_subset
    (store : Store α σ)
    (now : Instant)
    (s : Shared α σ)
    (p : Publishing α) :
    p.inlining store now s ⊆ p.unsettled := by
  cases p with
  | appending item policy =>
      simp only [inlining]
      split
      · exact fun _ h => h
      · exact List.nil_subset _
  | _ => exact List.nil_subset _

/- A call lets no item wait but its own. -/
theorem Publishing.pushing_subset
    (p : Publishing α) :
    p.pushing ⊆ p.unsettled := by
  cases p with
  | buffering item => exact fun _ h => h
  | _ => exact List.nil_subset _

/- What a call appends or lets wait is one item at most. -/
theorem Publishing.pairwise_inlining_pushing
    (store : Store α σ)
    (now : Instant)
    (s : Shared α σ)
    (p : Publishing α)
    (R : α → α → Prop) :
    (p.inlining store now s ++ p.pushing).Pairwise R := by
  cases p with
  | appending item policy =>
      simp only [inlining, pushing]
      split
      · exact List.pairwise_singleton R item
      · exact List.Pairwise.nil
  | buffering item => exact List.pairwise_singleton R item
  | _ => exact List.Pairwise.nil

end Steps

------------------------------------------------------------
-- Chronicles
------------------------------------------------------------

/- A ledger, with the items that overtook others. -/
structure Chronicle (α σ : Type) where
  ledger : Ledger α σ
  /-
    The items that their own calls appended, each with the items
    that waited meanwhile.
  -/
  overtakes : List (Ticket α × Ticket α)

namespace Chronicle

variable {α σ : Type}

/- An outbox that nobody has used yet. -/
def create
    (capacity : Nat)
    (s : σ) : Chronicle α σ where
  ledger := .create capacity s
  overtakes := []

/- Make a move, and keep which items overtake others. -/
def step
    (store : Store α σ)
    (limit : Duration)
    (move : Traffic.Move α)
    (c : Chronicle α σ) : Chronicle α σ where
  ledger := c.ledger.step store limit move
  overtakes :=
    c.overtakes ++ c.ledger.traffic.overtaking store.audited move

/- Make some moves, one after the other. -/
def run
    (store : Store α σ)
    (limit : Duration) :
    List (Traffic.Move α) → Chronicle α σ → Chronicle α σ
  | [], c => c
  | move :: rest, c => run store limit rest (step store limit move c)

section Moves

variable {store : Store α σ} {limit : Duration} {c : Chronicle α σ}

/- A call that hands an item in overtakes none. -/
theorem step_publish
    (item : α)
    (policy : EmitPolicy) :
    c.step store limit (.publish item policy) =
      { c with
        ledger := c.ledger.step store limit (.publish item policy) } := by
  simp [step, Traffic.overtaking]

/- A pass that begins overtakes none. -/
theorem step_flush :
    c.step store limit .flush =
      { c with ledger := c.ledger.step store limit .flush } := by
  simp [step, Traffic.overtaking]

/- A step of a call overtakes what waits, or nothing. -/
theorem step_advance
    {n : Nat}
    {p : Publishing (Ticket α)}
    (hCall : c.ledger.traffic.publishings[n]? = some p)
    (now : Instant) :
    c.step store limit (.advance n now) =
      { ledger := c.ledger.step store limit (.advance n now)
        overtakes :=
          c.overtakes ++
            p.overtaking store.audited now c.ledger.shared } := by
  simp [step, Traffic.overtaking, hCall, Ledger.shared]

/- A call that has not begun takes no step. -/
theorem step_advance_of_none
    {n : Nat}
    (hCall : c.ledger.traffic.publishings[n]? = none)
    (now : Instant) :
    c.step store limit (.advance n now) = c := by
  simp [step, Traffic.overtaking, hCall,
    Ledger.step_advance_of_none hCall]

/- A step of a pass overtakes none. -/
theorem step_retry
    (n : Nat)
    (now : Instant) :
    c.step store limit (.retry n now) =
      { c with
        ledger := c.ledger.step store limit (.retry n now) } := by
  simp [step, Traffic.overtaking]

end Moves

/- What is kept changes nothing in the ledger. -/
theorem ledger_run
    (store : Store α σ)
    (limit : Duration)
    (moves : List (Traffic.Move α))
    (c : Chronicle α σ) :
    (c.run store limit moves).ledger = c.ledger.run store limit moves := by
  induction moves generalizing c with
  | nil => rfl
  | cons move rest ih => exact ih (c.step store limit move)

------------------------------------------------------------
-- Order along a run
------------------------------------------------------------

/- The first of two items was handed in first, or overtook the other. -/
def Ahead
    (c : Chronicle α σ)
    (x y : Ticket α) : Prop :=
  x.call < y.call ∨ (x, y) ∈ c.overtakes

/- It stays ahead when a call takes a step. -/
theorem Ahead.advance
    {store : Store α σ}
    {limit : Duration}
    {c : Chronicle α σ}
    {x y : Ticket α}
    (hAhead : c.Ahead x y)
    {n : Nat}
    {p : Publishing (Ticket α)}
    (hCall : c.ledger.traffic.publishings[n]? = some p)
    (now : Instant) :
    (c.step store limit (.advance n now)).Ahead x y := by
  rw [step_advance hCall]
  exact hAhead.imp_right (List.mem_append_left _)

/- What holds at any time where calls are made one after the other. -/
structure InOrder (c : Chronicle α σ) : Prop where
  balanced : c.ledger.Balanced
  /- Only the latest call may be under way. -/
  latest :
    ∀ (n : Nat) (p : Publishing (Ticket α)),
      c.ledger.traffic.publishings[n]? = some p →
        p.isDone = false →
          n + 1 = c.ledger.traffic.publishings.length
  queued : c.ledger.line.Pairwise fun x y => x.call < y.call
  appended : (c.ledger.itemsIn .accepted).Pairwise c.Ahead
  ahead :
    ∀ x ∈ c.ledger.itemsIn .accepted, ∀ y ∈ c.ledger.line, c.Ahead x y
  overtaken :
    ∀ x y, (x, y) ∈ c.overtakes →
      y.call < x.call ∧
        x ∈ c.ledger.itemsIn .accepted ∧
        (y ∈ c.ledger.itemsIn .accepted →
          Precedes (c.ledger.itemsIn .accepted) x y)

theorem inOrder_create
    (capacity : Nat)
    (s : σ) :
    (create capacity s : Chronicle α σ).InOrder where
  balanced := Ledger.balanced_create capacity s
  latest := by
    intro n p hCall
    simp [create, Ledger.create, Traffic.create] at hCall
  queued := List.Pairwise.nil
  appended := List.Pairwise.nil
  ahead := nofun
  overtaken := nofun

variable {store : Store α σ} {limit : Duration} {c : Chronicle α σ}

/- A call that hands an item in keeps all others in order. -/
theorem InOrder.publish
    (h : c.InOrder)
    (item : α)
    (policy : EmitPolicy)
    (hAlone :
      (c.ledger.step store limit (.publish item policy)).traffic.Alone) :
    (c.step store limit (.publish item policy)).InOrder := by
  have hBalanced :
      (c.ledger.step store limit (.publish item policy)).Balanced :=
    h.balanced.publish item policy
  rw [step_publish]
  rw [Ledger.step_publish] at hAlone hBalanced ⊢
  refine ⟨hBalanced, ?_, h.queued, h.appended, h.ahead, h.overtaken⟩
  intro n p hCall hUnderWay
  rcases Pool.joined_cases hCall with hOld | ⟨hPlace, _⟩
  · have hDone :=
      hAlone.isDone_of_joined rfl (List.mem_of_getElem? hOld)
    rw [hUnderWay] at hDone
    exact absurd hDone Bool.false_ne_true
  · simp [hPlace]

/- A pass that begins keeps all items in order. -/
theorem InOrder.flush
    (h : c.InOrder) :
    (c.step store limit .flush).InOrder := by
  have hBalanced : (c.ledger.step store limit .flush).Balanced :=
    h.balanced.flush
  have hLine := Ledger.line_flush (l := c.ledger) store limit
  rw [step_flush]
  refine ⟨hBalanced, ?_, ?_, ?_, ?_, ?_⟩
  · rw [Ledger.step_flush]
    exact h.latest
  · rw [hLine]
    exact h.queued
  · rw [Ledger.step_flush]
    exact h.appended
  · rw [hLine, Ledger.step_flush]
    exact h.ahead
  · rw [Ledger.step_flush]
    exact h.overtaken

section Advance

variable {n : Nat} {p : Publishing (Ticket α)}
variable (h : c.InOrder)
variable (hCall : c.ledger.traffic.publishings[n]? = some p)

include h hCall

/- The item that a call has in hand is younger than all others. -/
theorem InOrder.youngest
    {ticket older : Ticket α}
    (hTicket : ticket ∈ p.unsettled)
    {place : Place}
    (hOlder : older ∈ c.ledger.itemsIn place) :
    older.call < ticket.call := by
  have hLatest := h.latest n p hCall (p.isDone_of_mem_unsettled hTicket)
  exact h.balanced.call_lt_of_unsettled hCall hLatest hTicket hOlder

/- The call that takes a step stays the only one under way. -/
theorem InOrder.latest_advance
    (now : Instant)
    {m : Nat}
    {q : Publishing (Ticket α)}
    (hAt :
      (c.ledger.step store limit
        (.advance n now)).traffic.publishings[m]? = some q)
    (hUnderWay : q.isDone = false) :
    m + 1 =
      (c.ledger.step store limit
        (.advance n now)).traffic.publishings.length := by
  rw [Ledger.step_advance hCall] at hAt ⊢
  rw [List.length_set]
  rcases Pool.stepped_cases hAt with ⟨hPlace, hNew⟩ | ⟨_, hOld⟩
  · rw [hPlace]
    apply h.latest n p hCall
    cases p with
    | done result =>
        rw [hNew] at hUnderWay
        exact hUnderWay
    | _ => rfl
  · exact h.latest m q hOld hUnderWay

/- Its item joins the end of the line, if at all. -/
theorem InOrder.queued_advance
    (now : Instant) :
    (c.ledger.step store limit (.advance n now)).line.Pairwise
      fun x y => x.call < y.call := by
  apply List.Pairwise.sublist (Ledger.line_advance store limit hCall now)
  rw [List.pairwise_append]
  refine ⟨h.queued, ?_, ?_⟩
  · have hOne :=
      p.pairwise_inlining_pushing store.audited now c.ledger.shared
        fun x y => x.call < y.call
    exact (List.pairwise_append.mp hOne).2.1
  · intro older hOlder ticket hTicket
    rcases Ledger.exists_place_of_mem_line hOlder with ⟨place, hIn⟩
    exact h.youngest hCall (p.pushing_subset hTicket) hIn

/- What it appends comes after all that the store accepted. -/
theorem InOrder.appended_advance
    (now : Instant) :
    ((c.ledger.step store limit (.advance n now)).itemsIn
      .accepted).Pairwise (c.step store limit (.advance n now)).Ahead := by
  rw [Ledger.accepted_advance hCall, List.pairwise_append]
  refine ⟨?_, ?_, ?_⟩
  · exact h.appended.imp fun hAhead => hAhead.advance hCall now
  · have hOne :=
      p.pairwise_inlining_pushing store.audited now c.ledger.shared
        (c.step store limit (.advance n now)).Ahead
    exact (List.pairwise_append.mp hOne).1
  · intro older hOlder ticket hTicket
    left
    exact h.youngest hCall (p.inlining_subset _ _ _ hTicket) hOlder

/- What it appends is noted to overtake all that waits. -/
theorem InOrder.ahead_advance
    (hAlone : c.ledger.traffic.Alone)
    (now : Instant)
    {x y : Ticket α}
    (hAccepted :
      x ∈ (c.ledger.step store limit (.advance n now)).itemsIn .accepted)
    (hQueued : y ∈ (c.ledger.step store limit (.advance n now)).line) :
    (c.step store limit (.advance n now)).Ahead x y := by
  have hLine := Ledger.line_advance store limit hCall now
  rw [Ledger.accepted_advance hCall] at hAccepted
  rcases List.mem_append.mp hAccepted with hx | hx
  · rcases List.mem_append.mp (hLine.subset hQueued) with hy | hy
    · exact (h.ahead x hx y hy).advance hCall now
    · left
      exact h.youngest hCall (p.pushing_subset hy) hx
  · rcases List.mem_append.mp (hLine.subset hQueued) with hy | hy
    · -- no pass is under way, so what is in line waits
      have hTicket := p.inlining_subset _ _ _ hx
      have hNone :=
        hAlone.untried_eq_nil hCall (p.isDone_of_mem_unsettled hTicket)
      rw [Ledger.line, hNone] at hy
      right
      rw [step_advance hCall]
      apply List.mem_append_right
      exact Publishing.mem_overtaking_iff.mpr ⟨hx, hy⟩
    · have hOne :=
        p.pairwise_inlining_pushing store.audited now
          c.ledger.shared fun _ _ => False
      exact ((List.pairwise_append.mp hOne).2.2 x hx y hy).elim

/- What it overtakes was handed in before, and is still to come. -/
theorem InOrder.overtaken_advance
    (now : Instant)
    {x y : Ticket α}
    (hOvertakes :
      (x, y) ∈ (c.step store limit (.advance n now)).overtakes) :
    y.call < x.call ∧
      x ∈ (c.ledger.step store limit (.advance n now)).itemsIn .accepted ∧
      (y ∈ (c.ledger.step store limit
            (.advance n now)).itemsIn .accepted →
        Precedes
          ((c.ledger.step store limit (.advance n now)).itemsIn .accepted)
          x y) := by
  rw [Ledger.accepted_advance hCall]
  rw [step_advance hCall] at hOvertakes
  rcases List.mem_append.mp hOvertakes with hOld | hNew
  · rcases h.overtaken x y hOld with ⟨hCalls, hx, hBefore⟩
    exact
      ⟨hCalls, List.mem_append_left _ hx, precedes_append_of hx hBefore⟩
  · rcases Publishing.mem_overtaking_iff.mp hNew with ⟨hx, hy⟩
    have hWaits : y ∈ c.ledger.itemsIn .waiting := hy
    have hTicket := p.inlining_subset _ _ _ hx
    have hCalls := h.youngest hCall hTicket hWaits
    refine ⟨hCalls, List.mem_append_right _ hx, ?_⟩
    intro hTaken
    rcases List.mem_append.mp hTaken with hTaken | hTaken
    · exact absurd hTaken (h.balanced.not_accepted_of_waiting hWaits)
    · have hSelf :=
        h.youngest hCall (p.inlining_subset _ _ _ hTaken) hWaits
      exact absurd hSelf (Nat.lt_irrefl _)

end Advance

/- A step of a call keeps all items in order. -/
theorem InOrder.advance
    (h : c.InOrder)
    (hAlone : c.ledger.traffic.Alone)
    (n : Nat)
    (now : Instant) :
    (c.step store limit (.advance n now)).InOrder := by
  cases hCall : c.ledger.traffic.publishings[n]? with
  | none =>
      rw [step_advance_of_none hCall]
      exact h
  | some p =>
      exact
        { balanced := h.balanced.advance n now
          latest := fun _ _ hAt => h.latest_advance hCall now hAt
          queued := h.queued_advance hCall now
          appended := h.appended_advance hCall now
          ahead := fun _ hx _ hy => h.ahead_advance hCall hAlone now hx hy
          overtaken := fun _ _ hOvertakes =>
            h.overtaken_advance hCall now hOvertakes }

/- A step of a pass keeps all items in order. -/
theorem InOrder.retry
    (h : c.InOrder)
    (hAlone : c.ledger.traffic.Alone)
    (n : Nat)
    (now : Instant)
    (hAlone' :
      (c.ledger.step store limit (.retry n now)).traffic.Alone) :
    (c.step store limit (.retry n now)).InOrder := by
  have hBalanced :
      (c.ledger.step store limit (.retry n now)).Balanced :=
    h.balanced.retry n now
  rw [step_retry]
  cases hPass : c.ledger.traffic.passes[n]? with
  | none =>
      rw [Ledger.step_retry_of_none hPass]
      exact h
  | some f =>
      have hLine :=
        Ledger.line_retry store limit
          (hAlone.holdsApart fun _ => true) hPass now
          (hAlone'.holdsApart fun _ => true)
      simp only [List.filter_true] at hLine
      have hQueued := List.Pairwise.sublist hLine h.queued
      rw [List.pairwise_append] at hQueued
      have hAccepted :
          (c.ledger.step store limit (.retry n now)).itemsIn .accepted =
            c.ledger.itemsIn .accepted ++
              f.replaying store.audited now c.ledger.shared := by
        rw [Ledger.step_retry hPass]
        exact f.accepted_step store limit now c.ledger.shared
      refine ⟨hBalanced, ?_, hQueued.2.1, ?_, ?_, ?_⟩
      · -- latest
        rw [Ledger.step_retry hPass]
        exact h.latest
      · -- appended
        simp only [hAccepted]
        rw [List.pairwise_append]
        refine ⟨h.appended, hQueued.1.imp fun hCalls => Or.inl hCalls, ?_⟩
        intro x hx y hy
        exact h.ahead x hx y
          (hLine.subset (List.mem_append_left _ hy))
      · -- ahead
        simp only [hAccepted]
        intro x hx y hy
        rcases List.mem_append.mp hx with hx | hx
        · exact h.ahead x hx y
            (hLine.subset (List.mem_append_right _ hy))
        · exact Or.inl (hQueued.2.2 x hx y hy)
      · -- overtaken
        simp only [hAccepted]
        intro x y hOvertakes
        rcases h.overtaken x y hOvertakes with ⟨hCalls, hx, hBefore⟩
        exact
          ⟨hCalls, List.mem_append_left _ hx,
            precedes_append_of hx hBefore⟩

/- Every move of a run of single calls keeps all items in order. -/
theorem InOrder.step
    (h : c.InOrder)
    (hAlone : c.ledger.traffic.Alone)
    (move : Traffic.Move α)
    (hAlone' : (c.ledger.step store limit move).traffic.Alone) :
    (c.step store limit move).InOrder := by
  cases move with
  | publish item policy => exact h.publish item policy hAlone'
  | flush => exact h.flush
  | advance n now => exact h.advance hAlone n now
  | retry n now => exact h.retry hAlone n now hAlone'

/- All items are in order after a run of single calls. -/
theorem inOrder_run
    (store : Store α σ)
    (limit : Duration)
    (moves : List (Traffic.Move α))
    (h : c.InOrder)
    (hAlone :
      c.ledger.forget.Throughout store limit Traffic.Alone moves) :
    (c.run store limit moves).InOrder := by
  induction moves generalizing c with
  | nil => exact h
  | cons move rest ih =>
      have hNow := Traffic.alone_of_forget hAlone.1
      have hLater := hAlone.2
      rw [← Ledger.forget_step] at hLater
      have hNext := Traffic.alone_of_forget hLater.start
      exact ih (h.step hNow move hNext) hLater

end Chronicle

------------------------------------------------------------
-- Stores that keep the newest entries
------------------------------------------------------------

/-
  An append adds what is seen of its item behind all other
  entries if it succeeds, and may let the oldest ones go.  It
  changes none if it fails, and a probe changes none.
-/
structure Store.KeepsNewest
    {α β σ : Type}
    (store : Store α σ)
    (entries : σ → List β)
    (seen : α → Option β) : Prop where
  probed :
    ∀ limit s, entries (store.ping limit s).2 = entries s
  added :
    ∀ now item s id,
      (store.append now item s).1 = .ok id →
        entries (store.append now item s).2 <:+
          entries s ++ (seen item).toList
  failed :
    ∀ now item s fault,
      (store.append now item s).1 = .error fault →
        entries (store.append now item s).2 = entries s

/- A store that keeps all entries in order keeps the newest. -/
theorem Store.AppendsLast.keepsNewest
    {α σ : Type}
    {store : Store α σ}
    {entries : σ → List α}
    (hStore : store.AppendsLast entries) :
    store.KeepsNewest entries some where
  probed := hStore.probed
  added := by
    intro now item s id hAnswer
    rw [hStore.added now item s id hAnswer]
    exact List.suffix_rfl
  failed := hStore.failed

namespace MemoryStore

/- The store in memory keeps the newest entries of each stream. -/
theorem keepsNewest
    (stream : String) :
    store.KeepsNewest
      (fun s => (s.entries stream).map (·.fields))
      (fun record =>
        if record.stream = stream then some record.fields else none) where
  probed := fun _ _ => rfl
  added := by
    intro now record s id hAnswer
    simp only [store, append] at hAnswer ⊢
    split
    · rename_i hAway
      rw [if_pos hAway] at hAnswer
      cases hAnswer
    · rename_i hAway
      rw [if_neg hAway] at hAnswer
      split
      · rename_i hFailing
        rw [if_pos hFailing] at hAnswer
        cases hAnswer
      · by_cases hStream : record.stream = stream
        · subst hStream
          simp only [entries, Dict.get?_insert, if_true,
            Option.getD_some, Option.toList_some]
          have hTrimmed := (trim_suffix record.maxLength.toNat
            (s.entries record.stream ++
              [⟨entryId now s.sequence, record.fields⟩])).map
                (·.fields)
          rw [List.map_append] at hTrimmed
          exact hTrimmed
        · simp only [entries, Dict.get?_insert, if_neg hStream,
            Option.toList_none, List.append_nil]
          exact List.suffix_rfl
  failed := by
    intro now record s fault hAnswer
    simp only [store, append] at hAnswer ⊢
    split
    · rfl
    · rename_i hAway
      rw [if_neg hAway] at hAnswer
      split
      · rfl
      · rename_i hFailing
        rw [if_neg hFailing] at hAnswer
        cases hAnswer

end MemoryStore

section Entries

variable {α β σ : Type}
variable {store : Store α σ} {entries : σ → List β} {seen : α → Option β}

/- The entries of a store are the newest of old ones and those it accepted. -/
def Audit.HoldsNewest
    (entries : σ → List β)
    (seen : α → Option β)
    (old : List β)
    (s : Audit (Ticket α) σ) : Prop :=
  entries s.inner <:+
    old ++ s.accepted.filterMap fun ticket => seen ticket.item

/- A probe leaves the entries of a store alone. -/
theorem Store.KeepsNewest.holdsNewest_probe
    (hStore : store.KeepsNewest entries seen)
    {old : List β}
    {s : Audit (Ticket α) σ}
    (hHolds : s.HoldsNewest entries seen old)
    (limit : Duration) :
    (store.audited.ping limit s).2.HoldsNewest entries seen old := by
  unfold Audit.HoldsNewest at hHolds ⊢
  simp only [Store.audited, hStore.probed]
  exact hHolds

/- An accepted item becomes the newest entry. -/
theorem Store.KeepsNewest.holdsNewest_append
    (hStore : store.KeepsNewest entries seen)
    {old : List β}
    {s : Audit (Ticket α) σ}
    (hHolds : s.HoldsNewest entries seen old)
    (now : Instant)
    (ticket : Ticket α) :
    (store.audited.append now ticket s).2.HoldsNewest entries seen old := by
  unfold Audit.HoldsNewest at hHolds ⊢
  simp only [Store.audited, Audit.inner_note]
  cases hAnswer : (store.append now ticket.item s.inner).1 with
  | ok id =>
      have hAdded := hStore.added _ _ _ _ hAnswer
      rcases hHolds with ⟨older, hOlder⟩
      have hBehind :
          entries s.inner ++ (seen ticket.item).toList <:+
            old ++
              (s.accepted ++ [ticket]).filterMap
                fun ticket => seen ticket.item := by
        refine ⟨older, ?_⟩
        rw [← List.append_assoc, hOlder, List.filterMap_append,
          List.append_assoc]
        cases hSeen : seen ticket.item <;> simp [hSeen]
      exact hAdded.trans hBehind
  | error fault =>
      rw [hStore.failed _ _ _ _ hAnswer]
      by_cases h : fault.isConnection
      · simpa [Audit.note, h] using hHolds
      · simpa [Audit.note, h] using hHolds

/- The entries of a store are the newest of those it accepted, in order. -/
theorem Ledger.holdsNewest_run
    (hStore : store.KeepsNewest entries seen)
    (limit : Duration)
    (moves : List (Traffic.Move α))
    {old : List β}
    {l : Ledger α σ}
    (h : l.shared.store.HoldsNewest entries seen old) :
    (l.run store limit moves).shared.store.HoldsNewest entries seen old := by
  induction moves generalizing l with
  | nil => exact h
  | cons move rest ih =>
      apply ih
      exact Traffic.step_store
        (P := fun s => Audit.HoldsNewest entries seen old s)
        (fun limit _ hHolds => hStore.holdsNewest_probe hHolds limit)
        (fun now item _ hHolds =>
          hStore.holdsNewest_append hHolds now item)
        limit (l.ticketed move) h

end Entries

------------------------------------------------------------
-- The order of appended items
------------------------------------------------------------

namespace Chronicle

variable {α σ : Type}

/-
  Whatever the store answers, as long as calls that publish
  items and passes are made one after the other on an outbox:
    * the items handed in are numbered in the order of their
      calls, and the store accepted some of them;
    * of two accepted items the one that stands first was handed
      in first, unless it overtook the other one: its own call
      appended it while the other one was waiting;
    * an item that overtook another one was handed in later, and
      stands before it if the other one was accepted at all;
    * a store that adds what it accepts behind its entries, and
      may let the oldest ones go, has the newest of the accepted
      items as its last entries, in this order.
  The calls and passes act as they do when nothing is kept
  about them.
-/
theorem appended_in_call_order
    (store : Store α σ)
    (limit : Duration)
    (capacity : Nat)
    (s : σ)
    (moves : List (Traffic.Move α))
    (hAlone :
      (Traffic.create capacity s).Throughout store limit Traffic.Alone
        moves) :
    let c := (create capacity s : Chronicle α σ).run store limit moves
    let l := c.ledger
    l.forget = (Traffic.create capacity s).run store limit moves ∧
      l.issued.map (·.item) = moves.flatMap (·.items) ∧
      l.issued.map (·.call) =
        List.range l.traffic.publishings.length ∧
      l.itemsIn .accepted ⊆ l.issued ∧
      (l.itemsIn .accepted).Pairwise
        (fun x y => x.call < y.call ↔ (x, y) ∉ c.overtakes) ∧
      (∀ x y, (x, y) ∈ c.overtakes →
        y.call < x.call ∧
          x ∈ l.itemsIn .accepted ∧
          (y ∈ l.itemsIn .accepted →
            Precedes (l.itemsIn .accepted) x y)) ∧
      (∀ (β : Type) (entries : σ → List β) (seen : α → Option β),
        store.KeepsNewest entries seen →
          entries l.shared.store.inner <:+
            entries s ++
              (l.itemsIn .accepted).filterMap
                fun ticket => seen ticket.item) := by
  intro c l
  have hOrder : c.InOrder :=
    inOrder_run store limit moves (inOrder_create capacity s) hAlone
  have hLedger :
      l = (Ledger.create capacity s).run store limit moves :=
    ledger_run store limit moves (create capacity s)
  refine ⟨?_, ?_, hOrder.balanced.numbered, ?_, ?_,
    hOrder.overtaken, ?_⟩
  · rw [hLedger]
    exact Ledger.forget_run store limit moves (.create capacity s)
  · rw [hLedger]
    exact Ledger.issued_run store limit moves (.create capacity s)
  · intro ticket hAccepted
    exact hOrder.balanced.mem_issued hAccepted
  · apply hOrder.appended.imp
    intro x y hAhead
    constructor
    · intro hCalls hOvertakes
      have hCalls' := (hOrder.overtaken x y hOvertakes).1
      omega
    · intro hNever
      exact hAhead.resolve_right hNever
  · intro β entries seen hStore
    rw [hLedger]
    apply Ledger.holdsNewest_run hStore limit moves
    simp [Audit.HoldsNewest, Ledger.create, Ledger.shared,
      Traffic.create]

/-
  Two items wait when a third call finds the store back.  A pass
  appends the first item and loses the store, a fourth item
  starts to wait, and the next pass appends what is left.
-/
def returningMoves : List (Traffic.Move String) :=
  [ .publish "first" .required
  , .advance 0 ⟨0⟩, .advance 0 ⟨0⟩
  , .publish "second" .required
  , .advance 1 ⟨0⟩, .advance 1 ⟨0⟩
  , .publish "third" .required
  , .advance 2 ⟨0⟩, .advance 2 ⟨0⟩
  , .flush
  , .retry 0 ⟨0⟩, .retry 0 ⟨0⟩, .retry 0 ⟨0⟩, .retry 0 ⟨0⟩
  , .retry 0 ⟨0⟩, .retry 0 ⟨0⟩, .retry 0 ⟨0⟩
  , .publish "fourth" .required
  , .advance 3 ⟨0⟩, .advance 3 ⟨0⟩
  , .flush
  , .retry 1 ⟨0⟩, .retry 1 ⟨0⟩, .retry 1 ⟨0⟩, .retry 1 ⟨0⟩
  , .retry 1 ⟨0⟩, .retry 1 ⟨0⟩ ]

/- A store that is away for two calls, and at times later. -/
def returningScript : Scripted (List String) :=
  (Scripted.create []).cue
    [ .fail (.unavailable "away"), .fail (.unavailable "away")
    , .pass, .pass, .fail (.unavailable "away") ]
    [ .pass, .pass, .fail (.unavailable "away") ]

/- The third item stands before the two that it overtook. -/
theorem returning_in_call_order :
    let c :=
      (create 5 returningScript).run (Scripted.store .list) ⟨1000⟩
        returningMoves
    (Traffic.create 5 returningScript).Throughout
        (Scripted.store .list) ⟨1000⟩ Traffic.Alone returningMoves ∧
      c.ledger.itemsIn .accepted =
        [⟨2, "third"⟩, ⟨0, "first"⟩, ⟨1, "second"⟩, ⟨3, "fourth"⟩] ∧
      c.overtakes =
        [ (⟨2, "third"⟩, ⟨0, "first"⟩)
        , (⟨2, "third"⟩, ⟨1, "second"⟩) ] ∧
      (c.ledger.itemsIn .accepted).Pairwise
        (fun x y => x.call < y.call ↔ (x, y) ∉ c.overtakes) ∧
      c.ledger.shared.store.inner.inner <:+
        (c.ledger.itemsIn .accepted).filterMap
          fun ticket => some ticket.item := by
  have hAlone :
      (Traffic.create 5 returningScript).Throughout
        (Scripted.store .list) ⟨1000⟩ Traffic.Alone returningMoves := by
    decide
  have h :=
    appended_in_call_order (Scripted.store .list) ⟨1000⟩ 5
      returningScript returningMoves hAlone
  exact
    ⟨hAlone, rfl, rfl, h.2.2.2.2.1,
      h.2.2.2.2.2.2 String (fun s => s.inner) some
        (Store.appendsLast_list.scripted).keepsNewest⟩

/-
  An item waits for the store, which is back for the next call
  and for the pass after it.
-/
def recoveredMoves : List (Traffic.Move String) :=
  [ .publish "first" .required
  , .advance 0 ⟨0⟩, .advance 0 ⟨0⟩
  , .publish "second" .required
  , .advance 1 ⟨0⟩, .advance 1 ⟨0⟩
  , .flush
  , .retry 0 ⟨0⟩, .retry 0 ⟨0⟩, .retry 0 ⟨0⟩, .retry 0 ⟨0⟩
  , .retry 0 ⟨0⟩, .retry 0 ⟨0⟩, .retry 0 ⟨0⟩ ]

/- A store that is away for the first call only. -/
def recoveredScript : Scripted (List String) :=
  (Scripted.create []).cue [.fail (.unavailable "away")] []

/-
  Though the calls are made one after the other, the entries of
  the store are not in the order of the calls.
-/
theorem recovered_out_of_order :
    let l :=
      (Ledger.create 5 recoveredScript).run (Scripted.store .list)
        ⟨1000⟩ recoveredMoves
    (Traffic.create 5 recoveredScript).Throughout
        (Scripted.store .list) ⟨1000⟩ Traffic.Alone recoveredMoves ∧
      l.issued = [⟨0, "first"⟩, ⟨1, "second"⟩] ∧
      l.shared.store.inner.inner = ["second", "first"] ∧
      l.itemsIn .accepted = [⟨1, "second"⟩, ⟨0, "first"⟩] ∧
      ¬ (l.itemsIn .accepted).Pairwise fun x y => x.call < y.call := by
  refine ⟨by decide, rfl, rfl, rfl, ?_⟩
  intro hOrder
  have hCalls := List.rel_of_pairwise_cons hOrder (.head _)
  exact absurd hCalls (by decide)

end Chronicle

end Courier
