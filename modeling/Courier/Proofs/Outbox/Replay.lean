import Courier.Proofs.Outbox.Conservation

/-
  Items that had to wait reach the store in the order in which
  they began to, as long as no two passes are under way at
  once.  Whatever the store answers, what the passes appended
  so far, what the pass under way has in hand and what waits
  are, in this order, some of the items that were pushed into
  the buffer, in the order of the pushes.

  An item may be taken out and put back many times while other
  items are pushed, evicted or refused.  It never passes one
  that was pushed before it.  For this the passes need not be
  apart altogether: among the items of any kind the order is
  kept as long as no two passes hold items of that kind.

  Key definitions include:
    * `Flushing.underWay`, `Flushing.holds`
    * `Traffic.Apart`, `Traffic.RunsApart`
    * `Traffic.HoldsApart`
    * `Publishing.inlining`, `Flushing.replaying`
    * `Ledger.line`
    * `Replay`, `Replay.line`
    * `Replay.Sound`, `Replay.InOrder`
    * `Store.AppendsLast`

  Main statements:
    * `Flushing.step_in_order`, `Publishing.step_in_order`
    * `Ledger.line_retry`, `Replay.ordered_run`
    * `Replay.inOrder_run`
    * `Replay.replayed_in_push_order`
-/

namespace Courier

------------------------------------------------------------
-- Passes that do not overlap
------------------------------------------------------------

/- Whether a pass took its first step, but not its last. -/
def Flushing.underWay
    {α : Type} : Flushing α → Bool
  | starting => false
  | done _ => false
  | _ => true

/- A pass that is not under way holds nothing. -/
theorem Flushing.held_of_not_underWay
    {α : Type}
    {f : Flushing α}
    (hIdle : f.underWay = false) :
    f.held = [] := by
  cases f with
  | starting => rfl
  | done result => rfl
  | _ => exact absurd hIdle nofun

/- Whether a pass is under way does not depend on its items. -/
theorem Flushing.underWay_map
    {α β : Type}
    (g : α → β)
    (f : Flushing α) :
    (f.map g).underWay = f.underWay := by
  cases f with
  | _ => rfl

namespace Traffic

variable {α σ : Type}

/- At most one pass is under way. -/
def Apart
    (t : Traffic α σ) : Prop :=
  (t.passes.filter Flushing.underWay).length ≤ 1

/- At most one pass is under way at any time of a run. -/
def RunsApart
    (store : Store α σ)
    (limit : Duration) :
    List (Move α) → Traffic α σ → Prop
  | [], t => t.Apart
  | move :: rest, t =>
      t.Apart ∧ RunsApart store limit rest (t.step store limit move)

instance decidableApart
    (t : Traffic α σ) :
    Decidable t.Apart :=
  inferInstanceAs (Decidable (_ ≤ _))

instance decidableRunsApart
    (store : Store α σ)
    (limit : Duration) :
    (moves : List (Move α)) → (t : Traffic α σ) →
      Decidable (t.RunsApart store limit moves)
  | [], t => decidableApart t
  | move :: rest, t =>
      have := decidableRunsApart store limit rest
        (t.step store limit move)
      inferInstanceAs (Decidable (_ ∧ _))

/- Tickets do not matter to passes that do not overlap. -/
theorem apart_of_forget
    {l : Ledger α σ}
    (hApart : l.forget.Apart) :
    l.traffic.Apart := by
  unfold Apart Ledger.forget at hApart
  rw [List.filter_map, List.length_map] at hApart
  have hUnderWay :
      (Flushing.underWay ∘ Flushing.map fun ticket : Ticket α => ticket.item) =
        Flushing.underWay :=
    funext fun f => Flushing.underWay_map _ f
  rw [hUnderWay] at hApart
  exact hApart

/- No passes overlap at any time of a run in which none do. -/
theorem RunsApart.apart_run
    {store : Store α σ}
    {limit : Duration}
    {moves earlier : List (Move α)}
    {t : Traffic α σ}
    (hApart : t.RunsApart store limit moves)
    (hEarlier : earlier <+: moves) :
    (t.run store limit earlier).Apart := by
  induction moves generalizing t earlier with
  | nil =>
      rw [List.prefix_nil.mp hEarlier]
      exact hApart
  | cons move rest ih =>
      cases earlier with
      | nil => exact hApart.1
      | cons first earlier =>
          rcases List.cons_prefix_cons.mp hEarlier with ⟨hFirst, hRest⟩
          subst hFirst
          have hThen := ih hApart.2 hRest
          exact hThen

end Traffic

------------------------------------------------------------
-- Passes that do not share a kind of items
------------------------------------------------------------

section Kinds

variable {α σ : Type} {p : α → Bool}

/- Whether a pass holds an item of a kind. -/
def Flushing.holds
    (p : α → Bool)
    (f : Flushing α) : Bool :=
  f.held.any p

/- What a pass holds of a kind that it does not hold. -/
theorem Flushing.filter_held_of_not_holds
    {f : Flushing α}
    (hNone : f.holds p = false) :
    f.held.filter p = [] := by
  rw [List.filter_eq_nil_iff]
  exact List.any_eq_false.mp hNone

/- A pass that holds items is under way. -/
theorem Flushing.underWay_of_holds
    {f : Flushing α}
    (hHolds : f.holds p = true) :
    f.underWay = true := by
  by_contra hIdle
  rw [Bool.not_eq_true] at hIdle
  simp [holds, held_of_not_underWay hIdle] at hHolds

namespace Traffic

/- At most one pass holds items of a kind. -/
def HoldsApart
    (p : α → Bool)
    (t : Traffic α σ) : Prop :=
  (t.passes.filter (Flushing.holds p)).length ≤ 1

/- Passes that do not overlap hold no items at once. -/
theorem Apart.holdsApart
    {t : Traffic α σ}
    (hApart : t.Apart) :
    t.HoldsApart p :=
  (List.monotone_filter_right t.passes
    fun _ hHolds => Flushing.underWay_of_holds hHolds).length_le.trans
    hApart

/- The items that passes have yet to offer, or to put back. -/
def untried
    (t : Traffic α σ) : List α :=
  t.passes.flatMap Flushing.held

/- A pass that goes on with what it held changes nothing in hand. -/
theorem untried_set_of_same
    {t : Traffic α σ}
    {n : Nat}
    {f f' : Flushing α}
    (hPass : t.passes[n]? = some f)
    (hHeld : f'.held.filter p = f.held.filter p) :
    ((t.passes.set n f').flatMap Flushing.held).filter p =
      t.untried.filter p := by
  rw [untried, List.filter_flatMap, List.filter_flatMap,
    List.flatMap_def, List.flatMap_def,
    Pool.map_set_of_same (g := fun f => f.held.filter p) hPass hHeld]

/- What is in hand after the only pass that holds any goes on. -/
theorem HoldsApart.untried_set
    {t : Traffic α σ}
    (hApart : t.HoldsApart p)
    {n : Nat}
    {f : Flushing α}
    (hPass : t.passes[n]? = some f)
    (hHolds : f.holds p = true)
    (f' : Flushing α) :
    ((t.passes.set n f').flatMap Flushing.held).filter p =
      f'.held.filter p := by
  rw [List.filter_flatMap]
  exact Pool.flatMap_set_of_only (p := Flushing.holds p)
    (fun f hNone => f.filter_held_of_not_holds hNone)
    hPass hHolds hApart f'

/-
  A pass that holds items of a kind before its step or after it
  has all of them that are in hand.
-/
theorem HoldsApart.untried_eq
    {t : Traffic α σ}
    {n : Nat}
    {f f' : Flushing α}
    (hApart : t.HoldsApart p)
    (hApart' : HoldsApart p { t with passes := t.passes.set n f' })
    (hPass : t.passes[n]? = some f)
    (hHolds : f.holds p = true ∨ f'.holds p = true) :
    t.untried.filter p = f.held.filter p ∧
      ((t.passes.set n f').flatMap Flushing.held).filter p =
        f'.held.filter p := by
  have hBefore := untried_set_of_same (p := p) hPass rfl
  rcases hHolds with hHolds | hHolds
  · have hSet := hApart.untried_set hPass hHolds
    exact ⟨hBefore.symm.trans (hSet f), hSet f'⟩
  · have hBound := (List.getElem?_eq_some_iff.mp hPass).1
    have hPass' : (t.passes.set n f')[n]? = some f' :=
      List.getElem?_set_self hBound
    have hSet := hApart'.untried_set hPass' hHolds
    simp only [List.set_set] at hSet
    exact ⟨hBefore.symm.trans (hSet f), hSet f'⟩

end Traffic

end Kinds

------------------------------------------------------------
-- Pushed and replayed items
------------------------------------------------------------

/- The item that is pushed in the next step of a call. -/
def Publishing.pushing
    {α : Type} : Publishing α → List α
  | buffering item => [item]
  | _ => []

/- The item that the store accepts in the next step of a pass. -/
def Flushing.replaying
    {α σ : Type}
    (store : Store α σ)
    (now : Instant)
    (s : Shared α σ) : Flushing α → List α
  | offering _ (item :: _) =>
      match (store.append now item s.store).1 with
      | .ok _ => [item]
      | .error _ => []
  | _ => []

/- The item that a call appends in its next step. -/
def Publishing.inlining
    {α σ : Type}
    (store : Store α σ)
    (now : Instant)
    (s : Shared α σ) : Publishing α → List α
  | appending item _ =>
      match (store.append now item s.store).1 with
      | .ok _ => [item]
      | .error _ => []
  | _ => []

/- The items that are pushed in a move. -/
def Traffic.pushing
    {α β σ : Type}
    (t : Traffic α σ) : Move β → List α
  | .advance n _ =>
      match t.publishings[n]? with
      | none => []
      | some p => p.pushing
  | _ => []

/- The items that passes append in a move. -/
def Traffic.replaying
    {α β σ : Type}
    (store : Store α σ)
    (t : Traffic α σ) : Move β → List α
  | .retry n now =>
      match t.passes[n]? with
      | none => []
      | some f => f.replaying store now t.shared
  | _ => []

/- A ledger, with the items that had to wait. -/
structure Replay (α σ : Type) where
  ledger : Ledger α σ
  /- The items that calls pushed into the buffer, oldest push first. -/
  pushed : List (Ticket α)
  /- The items that passes appended to the store, oldest first. -/
  replayed : List (Ticket α)

namespace Replay

variable {α σ : Type}

/- An outbox that nobody has used yet. -/
def create
    (capacity : Nat)
    (s : σ) : Replay α σ where
  ledger := .create capacity s
  pushed := []
  replayed := []

/- Make a move, and keep which items wait and are appended. -/
def step
    (store : Store α σ)
    (limit : Duration)
    (move : Traffic.Move α)
    (r : Replay α σ) : Replay α σ where
  ledger := r.ledger.step store limit move
  pushed := r.pushed ++ r.ledger.traffic.pushing move
  replayed :=
    r.replayed ++ r.ledger.traffic.replaying store.audited move

/- Make some moves, one after the other. -/
def run
    (store : Store α σ)
    (limit : Duration) :
    List (Traffic.Move α) → Replay α σ → Replay α σ
  | [], r => r
  | move :: rest, r => run store limit rest (step store limit move r)

section Moves

variable {store : Store α σ} {limit : Duration} {r : Replay α σ}

/- A call that hands an item in pushes and appends none. -/
theorem step_publish
    (item : α)
    (policy : EmitPolicy) :
    r.step store limit (.publish item policy) =
      { r with
        ledger := r.ledger.step store limit (.publish item policy) } := by
  simp [step, Traffic.pushing, Traffic.replaying]

/- A pass that begins appends none. -/
theorem step_flush :
    r.step store limit .flush =
      { r with ledger := r.ledger.step store limit .flush } := by
  simp [step, Traffic.pushing, Traffic.replaying]

/- A step of a call pushes its item, or none. -/
theorem step_advance
    {n : Nat}
    {p : Publishing (Ticket α)}
    (hCall : r.ledger.traffic.publishings[n]? = some p)
    (now : Instant) :
    r.step store limit (.advance n now) =
      { ledger := r.ledger.step store limit (.advance n now)
        pushed := r.pushed ++ p.pushing
        replayed := r.replayed } := by
  simp [step, Traffic.pushing, Traffic.replaying, hCall]

/- A call that has not begun takes no step. -/
theorem step_advance_of_none
    {n : Nat}
    (hCall : r.ledger.traffic.publishings[n]? = none)
    (now : Instant) :
    r.step store limit (.advance n now) = r := by
  simp [step, Traffic.pushing, Traffic.replaying, hCall,
    Ledger.step_advance_of_none hCall]

/- A step of a pass appends an item, or none. -/
theorem step_retry
    {n : Nat}
    {f : Flushing (Ticket α)}
    (hPass : r.ledger.traffic.passes[n]? = some f)
    (now : Instant) :
    r.step store limit (.retry n now) =
      { ledger := r.ledger.step store limit (.retry n now)
        pushed := r.pushed
        replayed :=
          r.replayed ++
            f.replaying store.audited now r.ledger.shared } := by
  simp [step, Traffic.pushing, Traffic.replaying, hPass, Ledger.shared]

/- A pass that has not begun takes no step. -/
theorem step_retry_of_none
    {n : Nat}
    (hPass : r.ledger.traffic.passes[n]? = none)
    (now : Instant) :
    r.step store limit (.retry n now) = r := by
  simp [step, Traffic.pushing, Traffic.replaying, hPass,
    Ledger.step_retry_of_none hPass]

end Moves

/- What is kept changes nothing in the ledger. -/
theorem ledger_run
    (store : Store α σ)
    (limit : Duration)
    (moves : List (Traffic.Move α))
    (r : Replay α σ) :
    (r.run store limit moves).ledger = r.ledger.run store limit moves := by
  induction moves generalizing r with
  | nil => rfl
  | cons move rest ih => exact ih (r.step store limit move)

end Replay

------------------------------------------------------------
-- Single steps
------------------------------------------------------------

section Steps

variable {α σ : Type}

/- What waits after a refill is some of what was to wait. -/
theorem Buffer.sublist_refill
    (b : Buffer α)
    (items : List α) :
    (b.refill items).2.items.Sublist items :=
  List.drop_sublist _ _

/-
  A step of a call lets its item wait behind all others, or
  leaves the buffer as it is.
-/
theorem Publishing.step_in_order
    (store : Store α σ)
    (limit : Duration)
    (now : Instant)
    (p : Publishing α)
    (s : Shared α σ) :
    (p.step store limit now s).2.buffer.items.Sublist
      (s.buffer.items ++ p.pushing) := by
  cases p with
  | probing item policy =>
      simp only [step, pushing, List.append_nil]
      split <;> exact .refl _
  | appending item policy =>
      simp only [step, pushing, List.append_nil]
      split
      · exact .refl _
      · split <;> exact .refl _
  | buffering item => exact Buffer.sublist_refill _ _
  | done result =>
      simp only [pushing, List.append_nil]
      exact .refl _

/-
  A step of a pass appends, holds and leaves behind, in this
  order, what it held and what waited, but for the items that
  were refused or made way.
-/
theorem Flushing.step_in_order
    (store : Store α σ)
    (limit : Duration)
    (now : Instant)
    (f : Flushing α)
    (s : Shared α σ) :
    (f.replaying store now s ++
        ((f.step store limit now s).1.held ++
          (f.step store limit now s).2.buffer.items)).Sublist
      (f.held ++ s.buffer.items) := by
  cases f with
  | starting =>
      simp only [step]
      split <;> exact .refl _
  | probing =>
      simp only [step]
      split <;> exact .refl _
  | skipping => exact .refl _
  | taking =>
      simp only [step, replaying, held, Buffer.takeAll,
        List.append_nil, List.nil_append]
      exact .refl _
  | offering tally batch =>
      cases batch with
      | nil => exact .refl _
      | cons item rest =>
          simp only [step, replaying, held]
          cases (store.append now item s.store).1 with
          | ok id => exact .refl _
          | error fault =>
              by_cases hFault : fault.isConnection
              · simp only [hFault, if_true]
                exact .refl _
              · simp only [hFault]
                exact List.sublist_cons_self _ _
  | requeueing tally failed =>
      simp only [step, replaying, held, Buffer.requeue_snd,
        List.nil_append]
      exact Buffer.sublist_refill _ _
  | measuring tally => exact .refl _
  | done result => exact .refl _

/- A pass holds what it appends in its next step. -/
theorem Flushing.replaying_sublist_held
    (store : Store α σ)
    (now : Instant)
    (f : Flushing α)
    (s : Shared α σ) :
    (f.replaying store now s).Sublist f.held := by
  cases f with
  | offering tally batch =>
      cases batch with
      | nil => exact .refl _
      | cons item rest =>
          simp only [replaying, held]
          split
          · exact List.singleton_sublist.mpr List.mem_cons_self
          · exact List.nil_sublist _
  | _ => exact List.nil_sublist _

/- The store accepts in a step of a pass what the pass appends. -/
theorem Flushing.accepted_step
    (store : Store α σ)
    (limit : Duration)
    (now : Instant)
    (f : Flushing (Ticket α))
    (s : Shared (Ticket α) (Audit (Ticket α) σ)) :
    (f.step store.audited limit now s).2.store.accepted =
      s.store.accepted ++ f.replaying store.audited now s := by
  cases f with
  | starting =>
      simp only [step, replaying, List.append_nil]
      split <;> rfl
  | probing =>
      simp only [step, Store.check, Store.audited, replaying,
        List.append_nil]
      split <;> rfl
  | offering tally batch =>
      cases batch with
      | nil => exact (List.append_nil _).symm
      | cons ticket rest =>
          simp only [step, replaying, Store.audited]
          cases (store.append now ticket.item s.store.inner).1 with
          | ok id => rfl
          | error fault =>
              by_cases hFault : fault.isConnection
              · simp [hFault, Audit.note]
              · simp [hFault, Audit.note]
  | _ => exact (List.append_nil _).symm

/- The store accepts in a step of a call what the call appends. -/
theorem Publishing.accepted_step
    (store : Store α σ)
    (limit : Duration)
    (now : Instant)
    (p : Publishing (Ticket α))
    (s : Shared (Ticket α) (Audit (Ticket α) σ)) :
    (p.step store.audited limit now s).2.store.accepted =
      s.store.accepted ++ p.inlining store.audited now s := by
  cases p with
  | probing ticket policy =>
      simp only [step, Store.check, Store.audited, inlining,
        List.append_nil]
      split <;> rfl
  | appending ticket policy =>
      simp only [step, inlining, Store.audited]
      cases (store.append now ticket.item s.store.inner).1 with
      | ok id => rfl
      | error fault =>
          by_cases hFault : fault.isConnection
          · simp [hFault, Audit.note]
          · simp [hFault, Audit.note]
  | _ => exact (List.append_nil _).symm

end Steps

------------------------------------------------------------
-- The line of items
------------------------------------------------------------

namespace Ledger

variable {α σ : Type}
variable {l : Ledger α σ} {p : Ticket α → Bool}

/- What passes hold, and what waits, in this order. -/
def line
    (l : Ledger α σ) : List (Ticket α) :=
  l.traffic.untried ++ l.shared.buffer.items

/- A call that hands an item in is not in line yet. -/
theorem line_publish
    (store : Store α σ)
    (limit : Duration)
    (item : α)
    (policy : EmitPolicy) :
    (l.step store limit (.publish item policy)).line = l.line := by
  rw [step_publish]
  rfl

/- A pass that begins has nothing yet. -/
theorem line_flush
    (store : Store α σ)
    (limit : Duration) :
    (l.step store limit .flush).line = l.line := by
  rw [step_flush]
  simp [line, Traffic.untried, Flushing.held, shared]

/- A step of a call lets its item join the end of the line, or none. -/
theorem line_advance
    (store : Store α σ)
    (limit : Duration)
    {n : Nat}
    {call : Publishing (Ticket α)}
    (hCall : l.traffic.publishings[n]? = some call)
    (now : Instant) :
    (l.step store limit (.advance n now)).line.Sublist
      (l.line ++ call.pushing) := by
  have hWaits :=
    Publishing.step_in_order store.audited limit now call l.shared
  rw [step_advance hCall]
  unfold line
  rw [List.append_assoc]
  exact hWaits.append_left _

/-
  A step of a pass that shares no kind of items with another one
  appends and leaves in line, in this order, items of the kind
  that were in line.
-/
theorem line_retry
    (store : Store α σ)
    (limit : Duration)
    (hApart : l.traffic.HoldsApart p)
    {n : Nat}
    {f : Flushing (Ticket α)}
    (hPass : l.traffic.passes[n]? = some f)
    (now : Instant)
    (hApart' :
      (l.step store limit (.retry n now)).traffic.HoldsApart p) :
    ((f.replaying store.audited now l.shared ++
        (l.step store limit (.retry n now)).line).filter p).Sublist
      (l.line.filter p) := by
  have hStep :=
    (Flushing.step_in_order store.audited limit now f l.shared).filter p
  rw [step_retry hPass] at hApart' ⊢
  simp only [line, List.filter_append] at hStep ⊢
  by_cases hHolds :
      f.holds p = true ∨
        (f.step store.audited limit now l.shared).1.holds p = true
  · rcases hApart.untried_eq hApart' hPass hHolds with
      ⟨hUntried, hUntried'⟩
    rw [hUntried]
    simp only [Traffic.untried, hUntried']
    exact hStep
  · -- the pass has none of the kind, and appends none
    simp only [not_or, Bool.not_eq_true] at hHolds
    have hHeld := Flushing.filter_held_of_not_holds hHolds.1
    have hHeld' := Flushing.filter_held_of_not_holds hHolds.2
    have hUntried :=
      Traffic.untried_set_of_same hPass (hHeld'.trans hHeld.symm)
    have hReplaying :=
      (f.replaying_sublist_held store.audited now l.shared).filter p
    rw [hHeld, List.sublist_nil] at hReplaying
    rw [hReplaying, hHeld, hHeld'] at hStep
    rw [hReplaying]
    simp only [Traffic.untried, hUntried]
    exact hStep.append_left _

/- The store accepts in a step of a call what the call appends. -/
theorem accepted_advance
    {store : Store α σ}
    {limit : Duration}
    {n : Nat}
    {call : Publishing (Ticket α)}
    (hCall : l.traffic.publishings[n]? = some call)
    {now : Instant} :
    (l.step store limit (.advance n now)).itemsIn .accepted =
      l.itemsIn .accepted ++
        call.inlining store.audited now l.shared := by
  rw [step_advance hCall]
  exact call.accepted_step store limit now l.shared

end Ledger

------------------------------------------------------------
-- Runs
------------------------------------------------------------

namespace Replay

variable {α σ : Type}
variable {store : Store α σ} {limit : Duration}

/- What holds of the items that had to wait, in whatever order. -/
structure Sound (r : Replay α σ) : Prop where
  balanced : r.ledger.Balanced
  /- No item was pushed twice. -/
  once : (r.pushed.map (·.call)).Nodup
  /- A call that pushed its item has returned. -/
  returned :
    ∀ ticket ∈ r.pushed,
      ∃ result,
        r.ledger.traffic.publishings[ticket.call]? =
          some (.done result)
  stored : r.replayed.Sublist r.ledger.shared.store.accepted

/- What holds of the items that had to wait at any time. -/
structure InOrder (r : Replay α σ) : Prop extends r.Sound where
  ordered :
    (r.replayed ++
        (r.ledger.traffic.untried ++
          r.ledger.shared.buffer.items)).Sublist r.pushed

theorem sound_create
    (capacity : Nat)
    (s : σ) :
    (create capacity s : Replay α σ).Sound where
  balanced := Ledger.balanced_create capacity s
  once := List.nodup_nil
  returned := nofun
  stored := .refl _

theorem inOrder_create
    (capacity : Nat)
    (s : σ) :
    (create capacity s : Replay α σ).InOrder where
  toSound := sound_create capacity s
  ordered := .refl _

/- A call that hands an item in keeps what holds of all others. -/
theorem Sound.publish
    {r : Replay α σ}
    (h : r.Sound)
    (item : α)
    (policy : EmitPolicy) :
    (r.step store limit (.publish item policy)).Sound := by
  have hBalanced :
      (r.ledger.step store limit (.publish item policy)).Balanced :=
    h.balanced.publish item policy
  rw [step_publish]
  rw [Ledger.step_publish] at hBalanced ⊢
  refine ⟨hBalanced, h.once, ?_, h.stored⟩
  intro ticket hPushed
  rcases h.returned ticket hPushed with ⟨result, hDone⟩
  have hBound := (List.getElem?_eq_some_iff.mp hDone).1
  exact ⟨result, (List.getElem?_append_left hBound).trans hDone⟩

/- A pass that begins keeps what holds of all items. -/
theorem Sound.flush
    {r : Replay α σ}
    (h : r.Sound) :
    (r.step store limit .flush).Sound := by
  have hBalanced : (r.ledger.step store limit .flush).Balanced :=
    h.balanced.flush
  rw [step_flush]
  rw [Ledger.step_flush] at hBalanced ⊢
  exact ⟨hBalanced, h.once, h.returned, h.stored⟩

/- A step of a call keeps what holds of all items. -/
theorem Sound.advance
    {r : Replay α σ}
    (h : r.Sound)
    (n : Nat)
    (now : Instant) :
    (r.step store limit (.advance n now)).Sound := by
  cases hCall : r.ledger.traffic.publishings[n]? with
  | none =>
      rw [step_advance_of_none hCall]
      exact h
  | some p =>
      have hBalanced :
          (r.ledger.step store limit (.advance n now)).Balanced :=
        h.balanced.advance n now
      have hLength := (List.getElem?_eq_some_iff.mp hCall).1
      rw [step_advance hCall]
      rw [Ledger.step_advance hCall] at hBalanced ⊢
      refine ⟨hBalanced, ?_, ?_, ?_⟩
      · -- once
        cases p with
        | buffering item =>
            have hOwn := h.balanced.own n _ hCall item (.head _)
            simp only [Publishing.pushing, List.map_append,
              List.map_singleton, List.nodup_append']
            refine ⟨h.once, List.nodup_singleton _, ?_⟩
            rw [List.disjoint_singleton, hOwn]
            intro hPushed
            rcases List.mem_map.mp hPushed with ⟨ticket, hTicket, rfl⟩
            rcases h.returned ticket hTicket with ⟨result, hDone⟩
            rw [hCall] at hDone
            exact absurd hDone nofun
        | _ => simpa [Publishing.pushing] using h.once
      · -- returned
        intro ticket hPushed
        rcases List.mem_append.mp hPushed with hBefore | hNow
        · rcases h.returned ticket hBefore with ⟨result, hDone⟩
          by_cases hSame : n = ticket.call
          · subst hSame
            rw [hCall] at hDone
            cases hDone
            exact ⟨result, List.getElem?_set_self hLength⟩
          · exact ⟨result, (List.getElem?_set_ne hSame).trans hDone⟩
        · cases p with
          | buffering item =>
              cases List.mem_singleton.mp hNow
              have hOwn := h.balanced.own n _ hCall ticket (.head _)
              rw [hOwn]
              exact ⟨.ok (), List.getElem?_set_self hLength⟩
          | _ => exact absurd hNow List.not_mem_nil
      · -- stored
        have hAccepted :=
          Publishing.accepted_step store limit now p r.ledger.shared
        have hStored :
            r.replayed.Sublist
              (p.step store.audited limit now
                r.ledger.shared).2.store.accepted := by
          rw [hAccepted]
          exact h.stored.trans (List.sublist_append_left _ _)
        exact hStored

/- A step of a pass keeps what holds of all items. -/
theorem Sound.retry
    {r : Replay α σ}
    (h : r.Sound)
    (n : Nat)
    (now : Instant) :
    (r.step store limit (.retry n now)).Sound := by
  cases hPass : r.ledger.traffic.passes[n]? with
  | none =>
      rw [step_retry_of_none hPass]
      exact h
  | some f =>
      have hBalanced :
          (r.ledger.step store limit (.retry n now)).Balanced :=
        h.balanced.retry n now
      rw [step_retry hPass]
      rw [Ledger.step_retry hPass] at hBalanced ⊢
      refine ⟨hBalanced, h.once, h.returned, ?_⟩
      have hAccepted :=
        Flushing.accepted_step store limit now f r.ledger.shared
      have hStored :
          (r.replayed ++
              f.replaying store.audited now r.ledger.shared).Sublist
            (f.step store.audited limit now
              r.ledger.shared).2.store.accepted := by
        rw [hAccepted]
        exact h.stored.append (.refl _)
      exact hStored

/- Every move keeps what holds of all items. -/
theorem Sound.step
    {r : Replay α σ}
    (h : r.Sound)
    (move : Traffic.Move α) :
    (r.step store limit move).Sound := by
  cases move with
  | publish item policy => exact h.publish item policy
  | flush => exact h.flush
  | advance n now => exact h.advance n now
  | retry n now => exact h.retry n now

theorem sound_run
    (store : Store α σ)
    (limit : Duration)
    (moves : List (Traffic.Move α))
    {r : Replay α σ}
    (h : r.Sound) :
    (r.run store limit moves).Sound := by
  induction moves generalizing r with
  | nil => exact h
  | cons move rest ih => exact ih (h.step move)

------------------------------------------------------------
-- Order along a run
------------------------------------------------------------

section Order

variable {r : Replay α σ} {p : Ticket α → Bool}

/- What passes appended, and what is in line behind it. -/
def line
    (r : Replay α σ) : List (Ticket α) :=
  r.replayed ++ r.ledger.line

/- Every move keeps the items of a kind in the order of the pushes. -/
theorem ordered_step
    (hApart : r.ledger.traffic.HoldsApart p)
    (move : Traffic.Move α)
    (hApart' : (r.ledger.step store limit move).traffic.HoldsApart p)
    (hOrdered : (r.line.filter p).Sublist r.pushed) :
    ((r.step store limit move).line.filter p).Sublist
      (r.step store limit move).pushed := by
  unfold line at hOrdered ⊢
  cases move with
  | publish item policy =>
      rw [step_publish, Ledger.line_publish]
      exact hOrdered
  | flush =>
      rw [step_flush, Ledger.line_flush]
      exact hOrdered
  | advance n now =>
      cases hCall : r.ledger.traffic.publishings[n]? with
      | none =>
          rw [step_advance_of_none hCall]
          exact hOrdered
      | some call =>
          have hLine :=
            ((Ledger.line_advance store limit hCall now).append_left
              r.replayed).filter p
          rw [← List.append_assoc, List.filter_append (_ ++ _)] at hLine
          have hPushed :=
            hOrdered.append (List.filter_sublist (p := p) (l := call.pushing))
          rw [step_advance hCall]
          exact hLine.trans hPushed
  | retry n now =>
      cases hPass : r.ledger.traffic.passes[n]? with
      | none =>
          rw [step_retry_of_none hPass]
          exact hOrdered
      | some f =>
          have hLine :=
            Ledger.line_retry store limit hApart hPass now hApart'
          rw [step_retry hPass, List.append_assoc, List.filter_append]
          rw [List.filter_append] at hOrdered
          exact (hLine.append_left _).trans hOrdered

/-
  Items of a kind are in the order of their pushes after any run
  in which no two passes hold items of the kind at once.
-/
theorem ordered_run
    (store : Store α σ)
    (limit : Duration)
    (moves : List (Traffic.Move α))
    (h : r.Sound)
    (hApart :
      ∀ earlier, earlier <+: moves →
        (r.ledger.run store limit earlier).traffic.HoldsApart p)
    (hOrdered : (r.line.filter p).Sublist r.pushed) :
    ((r.run store limit moves).line.filter p).Sublist
      (r.run store limit moves).pushed := by
  induction moves generalizing r with
  | nil => exact hOrdered
  | cons move rest ih =>
      have hNow := hApart [] (List.nil_prefix)
      have hNext := hApart [move] (List.prefix_append [move] rest)
      apply ih (h.step move)
      · intro earlier hEarlier
        exact hApart (move :: earlier)
          (List.cons_prefix_cons.mpr ⟨rfl, hEarlier⟩)
      · exact ordered_step hNow move hNext hOrdered

end Order

/- Items are in order after any run in which no passes overlap. -/
theorem inOrder_run
    (store : Store α σ)
    (limit : Duration)
    (moves : List (Traffic.Move α))
    {r : Replay α σ}
    (h : r.InOrder)
    (hApart : r.ledger.forget.RunsApart store limit moves) :
    (r.run store limit moves).InOrder where
  toSound := sound_run store limit moves h.toSound
  ordered := by
    have hHeld :
        ∀ earlier, earlier <+: moves →
          (r.ledger.run store limit earlier).traffic.HoldsApart
            fun _ => true := by
      intro earlier hEarlier
      have hNow := hApart.apart_run hEarlier
      rw [← Ledger.forget_run] at hNow
      exact (Traffic.apart_of_forget hNow).holdsApart
    have hOrdered :=
      ordered_run store limit moves h.toSound hHeld
        (List.filter_sublist.trans h.ordered)
    rw [List.filter_eq_self.mpr fun _ _ => rfl] at hOrdered
    exact hOrdered

end Replay

------------------------------------------------------------
-- Stores that keep items in order
------------------------------------------------------------

/-
  An append adds one entry behind all others if it succeeds
  and none if it fails, and a probe adds none.
-/
structure Store.AppendsLast
    {α σ : Type}
    (store : Store α σ)
    (entries : σ → List α) : Prop where
  probed :
    ∀ limit s, entries (store.ping limit s).2 = entries s
  added :
    ∀ now item s id,
      (store.append now item s).1 = .ok id →
        entries (store.append now item s).2 = entries s ++ [item]
  failed :
    ∀ now item s fault,
      (store.append now item s).1 = .error fault →
        entries (store.append now item s).2 = entries s

/- The store that keeps all items keeps them in order. -/
theorem Store.appendsLast_list
    {α : Type} :
    (Store.list : Store α (List α)).AppendsLast (fun s => s) where
  probed := fun _ _ => rfl
  added := fun _ _ _ _ _ => rfl
  failed := by
    intro now item s fault hFailed
    exact absurd hFailed nofun

section Entries

variable {α σ : Type}
variable {store : Store α σ} {entries : σ → List α}

/- A script in front of a store leaves the order of its entries alone. -/
theorem Store.AppendsLast.scripted
    (hStore : store.AppendsLast entries) :
    (Scripted.store store).AppendsLast fun s => entries s.inner where
  probed := by
    intro limit s
    simp only [Scripted.store, Scripted.ping]
    split
    · exact hStore.probed limit s.inner
    · split
      · exact hStore.probed limit s.inner
      · rfl
      · rfl
  added := by
    intro now item s id
    simp only [Scripted.store, Scripted.append]
    split
    · exact hStore.added now item s.inner id
    · split
      · exact hStore.added now item s.inner id
      · simp
  failed := by
    intro now item s fault
    simp only [Scripted.store, Scripted.append]
    split
    · exact hStore.failed now item s.inner fault
    · split
      · exact hStore.failed now item s.inner fault
      · exact fun _ => rfl

/- The entries of a store are old ones, then those it accepted. -/
def Audit.HoldsLast
    (entries : σ → List α)
    (old : List α)
    (s : Audit (Ticket α) σ) : Prop :=
  entries s.inner = old ++ s.accepted.map (·.item)

/- A probe leaves the entries of a store alone. -/
theorem Store.AppendsLast.holdsLast_probe
    (hStore : store.AppendsLast entries)
    {old : List α}
    {s : Audit (Ticket α) σ}
    (hHolds : s.HoldsLast entries old)
    (limit : Duration) :
    (store.audited.ping limit s).2.HoldsLast entries old :=
  (hStore.probed limit s.inner).trans hHolds

/- An accepted item is the last entry of the store. -/
theorem Store.AppendsLast.holdsLast_append
    (hStore : store.AppendsLast entries)
    {old : List α}
    {s : Audit (Ticket α) σ}
    (hHolds : s.HoldsLast entries old)
    (now : Instant)
    (ticket : Ticket α) :
    (store.audited.append now ticket s).2.HoldsLast entries old := by
  unfold Audit.HoldsLast at hHolds ⊢
  simp only [Store.audited, Audit.inner_note]
  cases hAnswer : (store.append now ticket.item s.inner).1 with
  | ok id =>
      rw [hStore.added _ _ _ _ hAnswer, hHolds]
      simp [Audit.note]
  | error fault =>
      rw [hStore.failed _ _ _ _ hAnswer, hHolds]
      by_cases h : fault.isConnection <;> simp [Audit.note, h]

/- The entries of the store are those that it accepted, in order. -/
theorem Ledger.holdsLast_run
    (hStore : store.AppendsLast entries)
    (limit : Duration)
    (moves : List (Traffic.Move α))
    {old : List α}
    {l : Ledger α σ}
    (h : l.shared.store.HoldsLast entries old) :
    (l.run store limit moves).shared.store.HoldsLast entries old := by
  induction moves generalizing l with
  | nil => exact h
  | cons move rest ih =>
      apply ih
      exact Traffic.step_store
        (P := fun s => Audit.HoldsLast entries old s)
        (fun limit _ hHolds => hStore.holdsLast_probe hHolds limit)
        (fun now item _ hHolds => hStore.holdsLast_append hHolds now item)
        limit (l.ticketed move) h

end Entries

------------------------------------------------------------
-- The order of replayed items
------------------------------------------------------------

namespace Replay

variable {α σ : Type}

/-
  Whatever the store answers, and in whatever order any number
  of calls and passes take their steps on one outbox, as long
  as no two passes are under way at once:
    * no item is pushed into the buffer twice;
    * what the passes appended so far, what the pass under way
      has yet to try, and what waits follow each other in the
      order in which the items were pushed;
    * the store accepted what the passes appended in this
      order, whatever it accepted from calls in between;
    * a store that keeps what it accepts in order has exactly
      the accepted items as its last entries.
  The calls and passes act as they do when nothing is kept
  about them.
-/
theorem replayed_in_push_order
    (store : Store α σ)
    (limit : Duration)
    (capacity : Nat)
    (s : σ)
    (moves : List (Traffic.Move α))
    (hApart :
      (Traffic.create capacity s).RunsApart store limit moves) :
    let r := (create capacity s : Replay α σ).run store limit moves
    let l := r.ledger
    l.forget = (Traffic.create capacity s).run store limit moves ∧
      (r.pushed.map (·.call)).Nodup ∧
      (r.replayed ++
          (l.traffic.untried ++ l.itemsIn .waiting)).Sublist r.pushed ∧
      r.replayed.Sublist (l.itemsIn .accepted) ∧
      (∀ entries, store.AppendsLast entries →
        entries l.shared.store.inner =
          entries s ++ (l.itemsIn .accepted).map (·.item)) := by
  intro r l
  have hOrder : r.InOrder :=
    inOrder_run store limit moves (inOrder_create capacity s) hApart
  have hLedger :
      l = (Ledger.create capacity s).run store limit moves :=
    ledger_run store limit moves (create capacity s)
  refine ⟨?_, hOrder.once, hOrder.ordered, hOrder.stored, ?_⟩
  · rw [hLedger]
    exact Ledger.forget_run store limit moves (.create capacity s)
  · intro entries hStore
    rw [hLedger]
    exact Ledger.holdsLast_run hStore limit moves
      (l := .create capacity s) (List.append_nil _).symm

/-
  Three calls on an outbox with room for two items start to
  wait, the third while a pass has the first two in hand.  The
  pass appends the first, loses the store, and puts the second
  back, which stays ahead of the third.  A fourth call makes
  the second item give way, and a fifth one appends its own.
  Of what is left the next pass appends the fourth item only,
  as the third is refused.
-/
def laggingMoves : List (Traffic.Move String) :=
  [ .publish "first" .required
  , .advance 0 ⟨0⟩, .advance 0 ⟨0⟩
  , .publish "second" .required
  , .advance 1 ⟨0⟩, .advance 1 ⟨0⟩
  , .flush
  , .retry 0 ⟨0⟩, .retry 0 ⟨0⟩, .retry 0 ⟨0⟩
  , .publish "third" .required
  , .advance 2 ⟨0⟩, .advance 2 ⟨0⟩
  , .retry 0 ⟨0⟩, .retry 0 ⟨0⟩, .retry 0 ⟨0⟩, .retry 0 ⟨0⟩
  , .publish "fourth" .required
  , .advance 3 ⟨0⟩, .advance 3 ⟨0⟩
  , .publish "fifth" .required
  , .advance 4 ⟨0⟩, .advance 4 ⟨0⟩
  , .flush
  , .retry 1 ⟨0⟩, .retry 1 ⟨0⟩, .retry 1 ⟨0⟩, .retry 1 ⟨0⟩, .retry 1 ⟨0⟩ ]

/- A store that is away at times, and refuses one item. -/
def laggingScript : Scripted (List String) :=
  (Scripted.create []).cue
    [ .fail (.unavailable "away"), .fail (.unavailable "away"), .pass
    , .fail (.unavailable "away"), .fail (.unavailable "away") ]
    [ .pass, .fail (.unavailable "away"), .pass
    , .fail (.rejected "full") ]

/- The first and the fourth item are appended in their order. -/
theorem lagging_in_push_order :
    let r :=
      (create 2 laggingScript).run (Scripted.store .list) ⟨1000⟩
        laggingMoves
    (Traffic.create 2 laggingScript).RunsApart (Scripted.store .list)
        ⟨1000⟩ laggingMoves ∧
      r.pushed =
        [⟨0, "first"⟩, ⟨1, "second"⟩, ⟨2, "third"⟩, ⟨3, "fourth"⟩] ∧
      r.replayed = [⟨0, "first"⟩, ⟨3, "fourth"⟩] ∧
      r.replayed.Sublist r.pushed ∧
      r.ledger.shared.store.inner.inner = ["first", "fifth", "fourth"] ∧
      r.ledger.shared.store.inner.inner =
        laggingScript.inner ++
          (r.ledger.itemsIn .accepted).map (·.item) := by
  have hApart :
      (Traffic.create 2 laggingScript).RunsApart (Scripted.store .list)
        ⟨1000⟩ laggingMoves := by
    decide
  have h :=
    replayed_in_push_order (Scripted.store .list) ⟨1000⟩ 2
      laggingScript laggingMoves hApart
  exact
    ⟨hApart, rfl, rfl,
      (List.sublist_append_left _ _).trans h.2.2.1, rfl,
      h.2.2.2.2 _ (Store.appendsLast_list.scripted)⟩

end Replay

end Courier
