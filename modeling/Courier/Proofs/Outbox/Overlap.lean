import Courier.Proofs.Outbox.Replay

/-
  Passes may overlap, as where a worker ticks while an outbox is
  flushed by hand.  Two items keep the order in which they were
  pushed as long as no two passes hold one of them each: among
  those that wait the older one stands first, and the younger
  one is not appended before it, unless the older one made way
  or was refused.

  Two passes that hold items of different ages at once break
  the order.  The one that puts its items back last puts them
  first, whichever were pushed first.

  Key definitions include:
    * `Precedes`
    * `Ledger.Split`, `Ledger.SplitDuring`
    * `Replay.Covers`

  Main statements:
    * `Flushing.step_covers`, `Publishing.step_covers`
    * `Replay.covers_run`
    * `Replay.ordered_of_not_split`
    * `Replay.overlapping_in_push_order`
    * `Replay.crossing_out_of_order`
-/

namespace Courier

------------------------------------------------------------
-- Order in a list
------------------------------------------------------------

section Precedence

variable {α : Type} {xs ys : List α} {x y : α}

/- A member of a list stands somewhere before another one. -/
def Precedes
    (xs : List α)
    (x y : α) : Prop :=
  [x, y].Sublist xs

instance decidablePrecedes
    [DecidableEq α]
    (xs : List α)
    (x y : α) :
    Decidable (Precedes xs x y) :=
  inferInstanceAs (Decidable (List.Sublist _ _))

/- Members of two parts precede each other as the parts do. -/
theorem precedes_append
    (hBefore : x ∈ xs)
    (hAfter : y ∈ ys) :
    Precedes (xs ++ ys) x y :=
  (List.singleton_sublist.mpr hBefore).append
    (List.singleton_sublist.mpr hAfter)

/- Members keep their order when others come behind them. -/
theorem precedes_append_of
    (hx : x ∈ xs)
    (hBefore : y ∈ xs → Precedes xs x y)
    (hy : y ∈ xs ++ ys) :
    Precedes (xs ++ ys) x y := by
  rcases List.mem_append.mp hy with hy | hy
  · exact (hBefore hy).trans (List.sublist_append_left _ _)
  · exact precedes_append hx hy

/- In a list without repetition two members have one order. -/
theorem Precedes.asymm
    (hOnce : xs.Nodup)
    (hBefore : Precedes xs x y) :
    ¬ Precedes xs y x := by
  induction xs with
  | nil => cases hBefore
  | cons first rest ih =>
      rcases List.nodup_cons.mp hOnce with ⟨hFirst, hRest⟩
      intro hAfter
      cases hBefore with
      | cons _ hBefore =>
          cases hAfter with
          | cons _ hAfter => exact ih hRest hBefore hAfter
          | cons_cons _ hAfter =>
              exact hFirst (hBefore.subset (.tail _ (.head _)))
      | cons_cons _ hBefore =>
          cases hAfter with
          | cons _ hAfter =>
              exact hFirst (hAfter.subset (.tail _ (.head _)))
          | cons_cons _ hAfter =>
              exact hFirst (hBefore.subset (.head _))

/- Of two members of a list one precedes the other. -/
theorem precedes_total
    (hx : x ∈ xs)
    (hy : y ∈ xs)
    (hOther : x ≠ y) :
    Precedes xs x y ∨ Precedes xs y x := by
  induction xs with
  | nil => cases hx
  | cons first rest ih =>
      rcases List.mem_cons.mp hx with hFirst | hx
      · left
        rw [hFirst] at hOther ⊢
        have hy := (List.mem_cons.mp hy).resolve_left (Ne.symm hOther)
        exact (List.singleton_sublist.mpr hy).cons_cons first
      · rcases List.mem_cons.mp hy with hFirst | hy
        · right
          rw [hFirst]
          exact (List.singleton_sublist.mpr hx).cons_cons first
        · rcases ih hx hy with hBefore | hAfter
          · exact Or.inl (hBefore.cons first)
          · exact Or.inr (hAfter.cons first)

end Precedence

------------------------------------------------------------
-- Items that two passes hold
------------------------------------------------------------

namespace Ledger

variable {α σ : Type}
variable {store : Store α σ} {limit : Duration}

/- Two passes hold the items of two calls, one each. -/
def Split
    (l : Ledger α σ)
    (first second : Nat) : Prop :=
  ∃ m n : Fin l.traffic.passes.length, m ≠ n ∧
    0 < l.occurrences (.held m) first ∧
    0 < l.occurrences (.held n) second

instance decidableSplit
    (l : Ledger α σ)
    (first second : Nat) :
    Decidable (l.Split first second) :=
  inferInstanceAs (Decidable (∃ _ _, _))

/- Two passes hold the items of two calls at some time of a run. -/
def SplitDuring
    (store : Store α σ)
    (limit : Duration)
    (moves : List (Traffic.Move α))
    (l : Ledger α σ)
    (first second : Nat) : Prop :=
  ∃ earlier ∈ moves.inits,
    (l.run store limit earlier).Split first second

theorem SplitDuring.symm
    {moves : List (Traffic.Move α)}
    {l : Ledger α σ}
    {first second : Nat}
    (hSplit : l.SplitDuring store limit moves first second) :
    l.SplitDuring store limit moves second first := by
  rcases hSplit with
    ⟨earlier, hEarlier, m, n, hOther, hFirst, hSecond⟩
  exact ⟨earlier, hEarlier, n, m, hOther.symm, hSecond, hFirst⟩

instance decidableSplitDuring
    (store : Store α σ)
    (limit : Duration)
    (moves : List (Traffic.Move α))
    (l : Ledger α σ)
    (first second : Nat) :
    Decidable (l.SplitDuring store limit moves first second) :=
  inferInstanceAs (Decidable (∃ _ ∈ _, _))

/- An item bears the number of a call that was begun. -/
theorem Balanced.call_lt
    {l : Ledger α σ}
    (h : l.Balanced)
    {ticket : Ticket α}
    (hIssued : ticket ∈ l.issued) :
    ticket.call < l.traffic.publishings.length := by
  rw [← List.mem_range, ← h.numbered]
  exact List.mem_map_of_mem hIssued

/- No two passes hold the item of the same call. -/
theorem Balanced.not_split_self
    {l : Ledger α σ}
    (h : l.Balanced)
    (call : Nat) :
    ¬ l.Split call call := by
  rintro ⟨m, n, hOther, hFirst, hSecond⟩
  have hBegun : call < l.traffic.publishings.length := by
    rcases List.mem_map.mp (List.count_pos_iff.mp hFirst) with
      ⟨ticket, hTicket, rfl⟩
    exact h.call_lt (h.mem_issued hTicket)
  have hTotal := h.countOf_eq_one hBegun
  rw [occurrences_held] at hFirst hSecond
  have hSum :
      (l.traffic.passes.map fun f =>
        countOf call (f.held : Multiset (Ticket α))).sum = 1 := by
    by_contra hNone
    have hNone' :
        (l.traffic.passes.map fun f =>
          countOf call (f.held : Multiset (Ticket α))).sum = 0 := by
      omega
    have hZero := Pool.eq_zero_of_sum_map_eq_zero hNone' m
    omega
  rcases Pool.exists_only_of_sum_map_eq_one hSum with
    ⟨k, hOnce, hOthers⟩
  by_cases hm : m.val = k
  · have hSame : n ≠ k := fun hn => hOther (Fin.ext (hm.trans hn.symm))
    have := hOthers n hSame
    omega
  · have := hOthers m hm
    omega

/- Whether an item is the one of a call, or that of another one. -/
def among
    (first second : Nat)
    (ticket : Ticket α) : Bool :=
  ticket.call == first || ticket.call == second

/- A pass that holds one of two items is counted with it. -/
theorem occurrences_of_holds
    {l : Ledger α σ}
    {n first second : Nat}
    {f : Flushing (Ticket α)}
    (hPass : l.traffic.passes[n]? = some f)
    (hHolds : f.holds (among first second) = true) :
    0 < l.occurrences (.held n) first ∨
      0 < l.occurrences (.held n) second := by
  have hHeld : l.itemsIn (.held n) = f.held := by
    simp [itemsIn, hPass]
  rcases List.any_eq_true.mp hHolds with ⟨ticket, hTicket, hAmong⟩
  have hCounted : 0 < l.occurrences (.held n) ticket.call :=
    List.count_pos_iff.mpr
      (List.mem_map_of_mem (hHeld.symm ▸ hTicket))
  rcases Bool.or_eq_true_iff.mp hAmong with hSame | hSame
  · exact Or.inl (eq_of_beq hSame ▸ hCounted)
  · exact Or.inr (eq_of_beq hSame ▸ hCounted)

/- Where two items are not split, one pass at most holds any. -/
theorem Balanced.holdsApart
    {l : Ledger α σ}
    (h : l.Balanced)
    {first second : Nat}
    (hTogether : ¬ l.Split first second) :
    l.traffic.HoldsApart (among first second) := by
  apply Pool.length_filter_le_one
  intro m n f g hPass hPass' hHolds hHolds'
  have hBound := (List.getElem?_eq_some_iff.mp hPass).1
  have hBound' := (List.getElem?_eq_some_iff.mp hPass').1
  by_contra hSame
  have hOther :
      (⟨m, hBound⟩ : Fin l.traffic.passes.length) ≠ ⟨n, hBound'⟩ :=
    fun hEqual => hSame (congrArg Fin.val hEqual)
  rcases occurrences_of_holds hPass hHolds with hm | hm <;>
    rcases occurrences_of_holds hPass' hHolds' with hn | hn
  · exact h.not_split_self first ⟨_, _, hOther, hm, hn⟩
  · exact hTogether ⟨_, _, hOther, hm, hn⟩
  · exact hTogether ⟨_, _, hOther.symm, hn, hm⟩
  · exact h.not_split_self second ⟨_, _, hOther, hm, hn⟩

end Ledger

------------------------------------------------------------
-- Where pushed items are
------------------------------------------------------------

section Steps

variable {α σ : Type}

/-
  An item that waits, or is pushed in a step of a call, waits
  afterwards, or makes way.
-/
theorem Publishing.step_covers
    (store : Store α σ)
    (limit : Duration)
    (now : Instant)
    (p : Publishing α)
    {s : Shared α σ}
    {item : α}
    (hItem : item ∈ s.buffer.items ++ p.pushing) :
    item ∈ (p.step store limit now s).2.buffer.items ∨
      item ∈ p.evicting s := by
  cases p with
  | probing other policy =>
      left
      simp only [pushing, List.append_nil] at hItem
      simp only [step]
      split <;> exact hItem
  | appending other policy =>
      left
      simp only [pushing, List.append_nil] at hItem
      simp only [step]
      split
      · exact hItem
      · split <;> exact hItem
  | buffering other =>
      have hSplit :=
        Buffer.overflow_append_items s.buffer
          (s.buffer.items ++ [other])
      simp only [pushing] at hItem
      rw [← hSplit] at hItem
      simp only [step, evicting, Buffer.push_fst_toList,
        Buffer.push_snd]
      exact (List.mem_append.mp hItem).symm
  | done result =>
      left
      simp only [pushing, List.append_nil] at hItem
      exact hItem

/-
  An item that a pass holds, or that waits, is appended in a
  step of the pass, or is held or waits afterwards, or makes
  way, or is refused.
-/
theorem Flushing.step_covers
    (store : Store α σ)
    (limit : Duration)
    (now : Instant)
    (f : Flushing (Ticket α))
    {s : Shared (Ticket α) (Audit (Ticket α) σ)}
    {ticket : Ticket α}
    (hTicket : ticket ∈ f.held ++ s.buffer.items) :
    ticket ∈
        f.replaying store.audited now s ++
          ((f.step store.audited limit now s).1.held ++
            (f.step store.audited limit now s).2.buffer.items) ∨
      ticket ∈ f.evicting s ∨
      ticket ∈ (f.step store.audited limit now s).2.store.refused := by
  have hConserved :=
    (Flushing.step_accounts store limit now f s).conserved
  unfold Shared.contents at hConserved
  rw [Flushing.accepted_step store limit now f s,
    ← Multiset.coe_add] at hConserved
  -- what the store accepted before plays no part
  have hMoved :
      (f.replaying store.audited now s : Multiset (Ticket α)) +
            (f.step store.audited limit now s).1.held +
            (f.step store.audited limit now s).2.buffer.items +
            f.evicting s +
            (f.step store.audited limit now s).2.store.refused =
          f.held + s.buffer.items + s.store.refused := by
    apply add_right_cancel
      (b := (s.store.accepted : Multiset (Ticket α)))
    calc
      _ = (f.evicting s : Multiset (Ticket α)) +
            (f.step store.audited limit now s).1.held +
            (s.store.accepted + f.replaying store.audited now s +
              (f.step store.audited limit now s).2.store.refused +
              (f.step store.audited limit now s).2.buffer.items) := by
            abel
      _ = f.held +
            (s.store.accepted + s.store.refused + s.buffer.items) :=
          hConserved
      _ = _ := by abel
  have hSome :
      ticket ∈
        (f.held + s.buffer.items + s.store.refused :
          Multiset (Ticket α)) := by
    rw [Multiset.mem_add]
    left
    rw [Multiset.coe_add]
    exact Multiset.mem_coe.mpr hTicket
  rw [← hMoved] at hSome
  simp only [Multiset.mem_add, Multiset.mem_coe] at hSome
  simp only [List.mem_append]
  tauto

end Steps

namespace Replay

variable {α σ : Type}
variable {store : Store α σ} {limit : Duration}

/- Every pushed item is in line, or made way, or was refused. -/
def Covers (r : Replay α σ) : Prop :=
  ∀ ticket ∈ r.pushed,
    ticket ∈ r.line ∨
      ticket ∈ r.ledger.evicted ∨
      ticket ∈ r.ledger.shared.store.refused

/- A step of a call leaves no pushed item out. -/
theorem Covers.advance
    {r : Replay α σ}
    (h : r.Covers)
    (n : Nat)
    (now : Instant) :
    (r.step store limit (.advance n now)).Covers := by
  cases hCall : r.ledger.traffic.publishings[n]? with
  | none =>
      rw [step_advance_of_none hCall]
      exact h
  | some p =>
      rw [step_advance hCall, Ledger.step_advance hCall]
      have hAccounts :=
        Publishing.step_accounts store limit now p r.ledger.shared
      intro ticket hPushed
      simp only [List.mem_append] at hPushed
      simp only [line, Ledger.line, Ledger.shared, Traffic.untried, List.mem_append]
      by_cases hNear :
          ticket ∈ r.ledger.shared.buffer.items ++ p.pushing
      · -- within the reach of the call
        rcases Publishing.step_covers store.audited limit now p hNear with
          hWaits | hEvicted
        · exact Or.inl (Or.inr (Or.inr hWaits))
        · exact Or.inr (Or.inl (Or.inr hEvicted))
      · rw [List.mem_append, not_or] at hNear
        rcases hPushed with hPushed | hPushed
        · have hBefore := h ticket hPushed
          simp only [line, Ledger.line, Ledger.shared, Traffic.untried,
            List.mem_append] at hBefore
          rcases hBefore with
            (hReplayed | hUntried | hWaits) | hEvicted | hRefused
          · exact Or.inl (Or.inl hReplayed)
          · exact Or.inl (Or.inr (Or.inl hUntried))
          · exact absurd hWaits hNear.1
          · exact Or.inr (Or.inl (Or.inl hEvicted))
          · exact Or.inr (Or.inr (hAccounts.kept hRefused))
        · exact absurd hPushed hNear.2

/- A step of a pass leaves no pushed item out. -/
theorem Covers.retry
    {r : Replay α σ}
    (h : r.Covers)
    (n : Nat)
    (now : Instant) :
    (r.step store limit (.retry n now)).Covers := by
  cases hPass : r.ledger.traffic.passes[n]? with
  | none =>
      rw [step_retry_of_none hPass]
      exact h
  | some f =>
      rw [step_retry hPass, Ledger.step_retry hPass]
      have hAccounts :=
        Flushing.step_accounts store limit now f r.ledger.shared
      have hBound := (List.getElem?_eq_some_iff.mp hPass).1
      have hStays :
          (f.step store.audited limit now r.ledger.shared).1 ∈
            r.ledger.traffic.passes.set n
              (f.step store.audited limit now r.ledger.shared).1 :=
        List.mem_of_getElem? (List.getElem?_set_self hBound)
      intro ticket hPushed
      have hBefore := h ticket hPushed
      simp only [line, Ledger.line, Ledger.shared, Traffic.untried,
        List.mem_append, List.mem_flatMap] at hBefore ⊢
      by_cases hNear : ticket ∈ f.held ++ r.ledger.shared.buffer.items
      · -- within the reach of the pass
        have hStep :=
          Flushing.step_covers store limit now f hNear
        simp only [List.mem_append] at hStep
        rcases hStep with
          (hReplayed | hHeld | hWaits) | hEvicted | hRefused
        · exact Or.inl (Or.inl (Or.inr hReplayed))
        · exact Or.inl (Or.inr (Or.inl ⟨_, hStays, hHeld⟩))
        · exact Or.inl (Or.inr (Or.inr hWaits))
        · exact Or.inr (Or.inl (Or.inr hEvicted))
        · exact Or.inr (Or.inr hRefused)
      · rw [List.mem_append, not_or] at hNear
        rcases hBefore with
          (hReplayed | ⟨g, hMember, hHeld⟩ | hWaits) | hEvicted | hRefused
        · exact Or.inl (Or.inl (Or.inl hReplayed))
        · rcases Pool.eq_or_mem_set hMember hPass
              (f.step store.audited limit now r.ledger.shared).1 with
            hSame | hOther
          · exact absurd (hSame ▸ hHeld) hNear.1
          · exact Or.inl (Or.inr (Or.inl ⟨g, hOther, hHeld⟩))
        · exact absurd hWaits hNear.2
        · exact Or.inr (Or.inl (Or.inl hEvicted))
        · exact Or.inr (Or.inr (hAccounts.kept hRefused))

/- No move leaves a pushed item out. -/
theorem Covers.step
    {r : Replay α σ}
    (h : r.Covers)
    (move : Traffic.Move α) :
    (r.step store limit move).Covers := by
  cases move with
  | publish item policy =>
      intro ticket hPushed
      rw [step_publish] at hPushed
      rw [step_publish, line, Ledger.line_publish, Ledger.step_publish]
      exact h ticket hPushed
  | flush =>
      intro ticket hPushed
      rw [step_flush] at hPushed
      rw [step_flush, line, Ledger.line_flush, Ledger.step_flush]
      exact h ticket hPushed
  | advance n now => exact h.advance n now
  | retry n now => exact h.retry n now

/- No run leaves a pushed item out. -/
theorem covers_run
    (store : Store α σ)
    (limit : Duration)
    (moves : List (Traffic.Move α))
    {r : Replay α σ}
    (hSound : r.Sound)
    (h : r.Covers) :
    (r.run store limit moves).Covers := by
  induction moves generalizing r with
  | nil => exact h
  | cons move rest ih =>
      exact ih (hSound.step move) (h.step move)

------------------------------------------------------------
-- The order of two items
------------------------------------------------------------

/-
  Two items that no two passes hold at once are in line in the
  order of their pushes.
-/
theorem ordered_of_not_split
    (store : Store α σ)
    (limit : Duration)
    (moves : List (Traffic.Move α))
    {r : Replay α σ}
    (hSound : r.Sound)
    (hOrdered : r.line.Sublist r.pushed)
    {first second : Nat}
    (hTogether :
      ¬ r.ledger.SplitDuring store limit moves first second) :
    ((r.run store limit moves).line.filter
        (Ledger.among first second)).Sublist
      (r.run store limit moves).pushed := by
  apply ordered_run store limit moves hSound
  · intro earlier hEarlier
    have hBalanced :=
      Ledger.balanced_run store limit earlier hSound.balanced
    apply hBalanced.holdsApart
    intro hSplit
    exact hTogether
      ⟨earlier, (List.mem_inits _ _).mpr hEarlier, hSplit⟩
  · exact List.filter_sublist.trans hOrdered

/- Two items in line that no two passes hold at once. -/
theorem precedes_pushed
    (store : Store α σ)
    (limit : Duration)
    (moves : List (Traffic.Move α))
    {r : Replay α σ}
    (hSound : r.Sound)
    (hOrdered : r.line.Sublist r.pushed)
    {first second : Ticket α}
    (hTogether :
      ¬ r.ledger.SplitDuring store limit moves first.call second.call)
    (hLine : Precedes (r.run store limit moves).line first second) :
    Precedes (r.run store limit moves).pushed first second := by
  have hBoth :
      [first, second].filter
          (Ledger.among first.call second.call) =
        [first, second] := by
    simp [Ledger.among]
  have hPart := List.Sublist.filter
    (Ledger.among first.call second.call) hLine
  rw [hBoth] at hPart
  exact hPart.trans
    (ordered_of_not_split store limit moves hSound hOrdered hTogether)

/-
  Whatever the store answers, and in whatever order any number
  of calls and passes take their steps on one outbox, as many
  of the passes under way at once as there may be:
    * no item is pushed into the buffer twice, all that wait
      were pushed, and the store accepted what the passes
      appended in their order;
    * of two items that wait, the one that stands first was
      pushed first, unless two passes held one of them each at
      some time;
    * each item that was pushed before one that a pass appended
      was itself appended by a pass, and earlier, or made way,
      or was refused, unless two passes held one of the two
      each at some time.
  The calls and passes act as they do when nothing is kept
  about them.
-/
theorem overlapping_in_push_order
    (store : Store α σ)
    (limit : Duration)
    (capacity : Nat)
    (s : σ)
    (moves : List (Traffic.Move α)) :
    let r := (create capacity s : Replay α σ).run store limit moves
    let l := r.ledger
    let split : Ticket α → Ticket α → Prop :=
      fun first second =>
        (Ledger.create capacity s : Ledger α σ).SplitDuring store limit
          moves first.call second.call
    l.forget = (Traffic.create capacity s).run store limit moves ∧
      (r.pushed.map (·.call)).Nodup ∧
      l.itemsIn .waiting ⊆ r.pushed ∧
      r.replayed.Sublist (l.itemsIn .accepted) ∧
      (∀ first second,
        Precedes (l.itemsIn .waiting) first second →
          Precedes r.pushed first second ∨ split first second) ∧
      (∀ first second,
        Precedes r.pushed first second → second ∈ r.replayed →
          Precedes r.replayed first second ∨
            first ∈ l.itemsIn .evicted ∨
            first ∈ l.itemsIn .refused ∨
            split first second) := by
  intro r l split
  have hSound : r.Sound :=
    sound_run store limit moves (sound_create capacity s)
  have hCovers : r.Covers :=
    covers_run store limit moves (sound_create capacity s) nofun
  have hLedger :
      l = (Ledger.create capacity s).run store limit moves :=
    ledger_run store limit moves (create capacity s)
  have hOnce : r.pushed.Nodup := hSound.once.of_map _
  have hPushed :
      ∀ first second, ¬ split first second →
        Precedes r.line first second →
          Precedes r.pushed first second :=
    fun first second hTogether hLine =>
      precedes_pushed store limit moves (sound_create capacity s)
        (.refl _) hTogether hLine
  have hWaiting : (l.itemsIn .waiting).Sublist r.line :=
    (List.sublist_append_right _ _).trans
      (List.sublist_append_right _ _)
  refine ⟨?_, hSound.once, ?_, hSound.stored, ?_, ?_⟩
  · rw [hLedger]
    exact Ledger.forget_run store limit moves (.create capacity s)
  · -- an item on its own is not split
    intro ticket hWaits
    have hAlone :
        ¬ (Ledger.create capacity s).SplitDuring store limit moves
          ticket.call ticket.call := by
      rintro ⟨earlier, _, hSplit⟩
      exact (Ledger.balanced_run store limit earlier
        (Ledger.balanced_create capacity s)).not_split_self _ hSplit
    have hOrdered :=
      ordered_of_not_split store limit moves (sound_create capacity s)
        (.refl _) hAlone
    apply hOrdered.subset
    rw [List.mem_filter]
    exact ⟨hWaiting.subset hWaits, by simp [Ledger.among]⟩
  · intro first second hWaits
    by_cases hSplit : split first second
    · exact Or.inr hSplit
    · exact Or.inl
        (hPushed first second hSplit (hWaits.trans hWaiting))
  · intro first second hBefore hReplayed
    by_cases hSplit : split first second
    · exact Or.inr (Or.inr (Or.inr hSplit))
    · have hSplit' : ¬ split second first :=
        fun hSwapped => hSplit hSwapped.symm
      have hNever : ¬ Precedes r.line second first := by
        intro hLine
        exact hBefore.asymm hOnce
          (hPushed second first hSplit' hLine)
      have hOther : first ≠ second := by
        intro hSame
        rw [hSame] at hBefore
        exact hBefore.asymm hOnce hBefore
      have hMember : first ∈ r.pushed := hBefore.subset (.head _)
      rcases hCovers first hMember with hLine | hEvicted | hRefused
      · left
        rcases List.mem_append.mp hLine with hFirst | hBehind
        · rcases precedes_total hFirst hReplayed hOther with
            hOrder | hOrder
          · exact hOrder
          · exact absurd
              (hOrder.trans (List.sublist_append_left _ _)) hNever
        · exact absurd (precedes_append hReplayed hBehind) hNever
      · exact Or.inr (Or.inl hEvicted)
      · exact Or.inr (Or.inr (Or.inl hRefused))

/-
  While a pass has two items in hand, a third one starts to wait
  and another pass begins, though it takes no items yet.  The
  first pass appends the first item, loses the store, and puts
  the second back ahead of the third.  Only then does the other
  pass take both, and append them.  Two more items start to
  wait.
-/
def followingMoves : List (Traffic.Move String) :=
  [ .publish "first" .required
  , .advance 0 ⟨0⟩, .advance 0 ⟨0⟩
  , .publish "second" .required
  , .advance 1 ⟨0⟩, .advance 1 ⟨0⟩
  , .flush
  , .retry 0 ⟨0⟩, .retry 0 ⟨0⟩, .retry 0 ⟨0⟩
  , .publish "third" .required
  , .advance 2 ⟨0⟩, .advance 2 ⟨0⟩
  , .flush
  , .retry 1 ⟨0⟩, .retry 1 ⟨0⟩
  , .retry 0 ⟨0⟩, .retry 0 ⟨0⟩, .retry 0 ⟨0⟩
  , .retry 1 ⟨0⟩, .retry 1 ⟨0⟩, .retry 1 ⟨0⟩
  , .retry 0 ⟨0⟩
  , .publish "fourth" .required
  , .advance 3 ⟨0⟩, .advance 3 ⟨0⟩
  , .publish "fifth" .required
  , .advance 4 ⟨0⟩, .advance 4 ⟨0⟩ ]

/- A store that is away at times. -/
def followingScript : Scripted (List String) :=
  (Scripted.create []).cue
    [ .fail (.unavailable "away"), .fail (.unavailable "away"), .pass
    , .fail (.unavailable "away"), .pass
    , .fail (.unavailable "away"), .fail (.unavailable "away") ]
    [ .pass, .fail (.unavailable "away"), .pass, .pass ]

/- Items are appended, and wait, in the order of their pushes. -/
theorem following_in_push_order :
    let r :=
      (create 5 followingScript).run (Scripted.store .list) ⟨1000⟩
        followingMoves
    Precedes r.pushed ⟨1, "second"⟩ ⟨2, "third"⟩ ∧
      ⟨2, "third"⟩ ∈ r.replayed ∧
      Precedes r.replayed ⟨1, "second"⟩ ⟨2, "third"⟩ ∧
      Precedes (r.ledger.itemsIn .waiting) ⟨3, "fourth"⟩ ⟨4, "fifth"⟩ ∧
      Precedes r.pushed ⟨3, "fourth"⟩ ⟨4, "fifth"⟩ := by
  have h :=
    overlapping_in_push_order (Scripted.store .list) ⟨1000⟩ 5
      followingScript followingMoves
  have hPushed :
      Precedes
        ((create 5 followingScript).run (Scripted.store .list) ⟨1000⟩
          followingMoves).pushed
        ⟨1, "second"⟩ ⟨2, "third"⟩ := by
    decide
  have hReplayed :
      ⟨2, "third"⟩ ∈
        ((create 5 followingScript).run (Scripted.store .list) ⟨1000⟩
          followingMoves).replayed := by
    decide
  have hWaiting :
      Precedes
        (((create 5 followingScript).run (Scripted.store .list) ⟨1000⟩
          followingMoves).ledger.itemsIn .waiting)
        ⟨3, "fourth"⟩ ⟨4, "fifth"⟩ := by
    decide
  refine ⟨hPushed, hReplayed, ?_, hWaiting, ?_⟩
  · rcases h.2.2.2.2.2 _ _ hPushed hReplayed with
      hOrder | hEvicted | hRefused | hSplit
    · exact hOrder
    · exact absurd hEvicted (by decide)
    · exact absurd hRefused (by decide)
    · exact absurd hSplit (by decide)
  · rcases h.2.2.2.2.1 _ _ hWaiting with hOrder | hSplit
    · exact hOrder
    · exact absurd hSplit (by decide)

/-
  Two passes that hold items at once.  The first has two items
  in hand when the other one takes two younger ones, and appends
  one of them.  The first pass loses the store and puts its items
  back, and the other one does after it.
-/
def crossingMoves : List (Traffic.Move String) :=
  [ .publish "first" .required
  , .advance 0 ⟨0⟩, .advance 0 ⟨0⟩
  , .publish "second" .required
  , .advance 1 ⟨0⟩, .advance 1 ⟨0⟩
  , .flush
  , .retry 0 ⟨0⟩, .retry 0 ⟨0⟩, .retry 0 ⟨0⟩
  , .publish "third" .required
  , .advance 2 ⟨0⟩, .advance 2 ⟨0⟩
  , .publish "fourth" .required
  , .advance 3 ⟨0⟩, .advance 3 ⟨0⟩
  , .flush
  , .retry 1 ⟨0⟩, .retry 1 ⟨0⟩, .retry 1 ⟨0⟩, .retry 1 ⟨0⟩
  , .retry 0 ⟨0⟩, .retry 0 ⟨0⟩, .retry 0 ⟨0⟩
  , .retry 1 ⟨0⟩, .retry 1 ⟨0⟩, .retry 1 ⟨0⟩ ]

/- A store that is away while items are published, and again later. -/
def crossingScript : Scripted (List String) :=
  (Scripted.create []).cue
    [ .fail (.unavailable "away"), .fail (.unavailable "away"), .pass
    , .fail (.unavailable "away"), .fail (.unavailable "away"), .pass ]
    [ .pass
    , .fail (.unavailable "away"), .fail (.unavailable "away") ]

/-
  The third item is appended while the first has yet to be, and
  once no pass is under way the fourth waits ahead of it.
-/
theorem crossing_out_of_order :
    let r :=
      (create 5 crossingScript).run (Scripted.store .list) ⟨1000⟩
        crossingMoves
    r.ledger.traffic.passes.filter Flushing.underWay = [] ∧
      r.pushed =
        [⟨0, "first"⟩, ⟨1, "second"⟩, ⟨2, "third"⟩, ⟨3, "fourth"⟩] ∧
      r.ledger.itemsIn .accepted = [⟨2, "third"⟩] ∧
      r.ledger.itemsIn .waiting =
        [⟨3, "fourth"⟩, ⟨0, "first"⟩, ⟨1, "second"⟩] ∧
      r.ledger.itemsIn .evicted = [] ∧
      r.ledger.itemsIn .refused = [] :=
  ⟨rfl, rfl, rfl, rfl, rfl, rfl⟩

end Replay

end Courier
