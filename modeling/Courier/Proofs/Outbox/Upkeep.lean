import Courier.Outbox.Worker
import Courier.Proofs.Outbox.Replay

/-
  This file defines what may happen on an outbox that a worker
  looks after: any number of calls that publish items, which
  take their steps in any order among those of the worker, and
  requests to stop it at any time.  No one else makes passes.

  A worker that steps does one of few things, and a pass that
  steps keeps the count of the items that it took.

  Key definitions include:
    * `Upkeep`
    * `Upkeep.Move`
    * `Upkeep.step`, `Upkeep.run`
    * `Worker.pass`, `Worker.outcome?`
    * `Worker.Stepped`
    * `Flushing.settled`, `Flushing.missed`
    * `Flushing.Tallied`

  Main statements:
    * `Worker.stepped`
    * `Publishing.count_step`
    * `Flushing.count_step`
    * `Flushing.tallied_step`
    * `Flushing.missed_step`
-/

namespace Courier

variable {α σ : Type}

------------------------------------------------------------
-- Moves
------------------------------------------------------------

/- An outbox, the calls on it so far, and its only worker. -/
structure Upkeep (α σ : Type) where
  shared : Shared α σ
  publishings : List (Publishing α)
  worker : Worker α

namespace Upkeep

/- What happens next on an outbox and to its worker. -/
inductive Move (α : Type) where
  /- A call hands an item in. -/
  | publish (item : α) (policy : EmitPolicy)
  /- The call with a number takes its next step. -/
  | advance (call : Nat) (now : Instant)
  /-
    Something happens to the worker.  Whoever stops, signals or
    drops it queues a request; whoever stops it waits for its
    end as well.
  -/
  | worker (action : Worker.Action) (now : Instant)

/- An outbox that nobody has used yet, and a new worker. -/
def create
    (capacity : Nat)
    (s : σ) : Upkeep α σ where
  shared := { store := s, buffer := .create capacity }
  publishings := []
  worker := .start

/- Make a move.  A call that has not begun takes no steps. -/
def step
    (store : Store α σ)
    (limit : Duration)
    (move : Move α)
    (u : Upkeep α σ) : Upkeep α σ :=
  match move with
  | .publish item policy =>
      { u with publishings := u.publishings ++ [.probing item policy] }
  | .advance n now =>
      match u.publishings[n]? with
      | none => u
      | some p =>
          let (p, s) := p.step store limit now u.shared
          { u with shared := s, publishings := u.publishings.set n p }
  | .worker action now =>
      let (w, s) := u.worker.step store limit now action u.shared
      { u with shared := s, worker := w }

/- Make some moves, one after the other. -/
def run
    (store : Store α σ)
    (limit : Duration) :
    List (Move α) → Upkeep α σ → Upkeep α σ
  | [], u => u
  | move :: rest, u => run store limit rest (step store limit move u)

end Upkeep

------------------------------------------------------------
-- Steps of a worker
------------------------------------------------------------

/- The outcome of a pass that is over. -/
def Flushing.outcome? : Flushing α → Option FlushResult
  | done result => some result
  | _ => none

/- A pass has an outcome if it is over. -/
theorem Flushing.outcome?_eq_some_iff
    (f : Flushing α)
    (result : FlushResult) :
    f.outcome? = some result ↔ f = .done result := by
  cases f with
  | done other => simp [outcome?]
  | _ => simp [outcome?]

namespace Worker

/-
  The pass that a worker is making.  Where it makes none, it
  counts as making one that is over and found nothing to do.
-/
def pass
    (w : Worker α) : Flushing α :=
  match w.stage with
  | .passing f => f
  | _ => .done .idle

/- The pass of a worker that takes a step, if an action takes one. -/
def working
    (action : Action)
    (w : Worker α) : Flushing α :=
  match action with
  | .work => w.pass
  | _ => .done .idle

/- What whoever waits for the end of a worker is told. -/
def outcome?
    (w : Worker α) : Option FlushStats :=
  match w.stage with
  | .stopped => some w.stats
  | _ => none

/- The pass of a worker that is making one. -/
theorem pass_of_passing
    {w : Worker α}
    {f : Flushing α}
    (hStage : w.stage = .passing f) :
    w.pass = f := by
  rw [pass, hStage]

/- A worker that waits makes no pass. -/
theorem pass_of_waiting
    {w : Worker α}
    (hStage : w.stage = .waiting) :
    w.pass = .done .idle := by
  rw [pass, hStage]

/- A worker that has ended makes no pass. -/
theorem pass_of_stopped
    {w : Worker α}
    (hStage : w.stage = .stopped) :
    w.pass = .done .idle := by
  rw [pass, hStage]

/- A worker is told to have ended if it has. -/
theorem outcome?_eq_some_iff
    (w : Worker α)
    (stats : FlushStats) :
    w.outcome? = some stats ↔ w.stage = .stopped ∧ w.stats = stats := by
  unfold outcome?
  cases w.stage with
  | waiting => simp
  | passing f => simp
  | stopped => simp

/- All that may happen to a worker when it steps. -/
inductive Stepped
    (store : Store α σ)
    (limit : Duration)
    (now : Instant)
    (w : Worker α)
    (s : Shared α σ) : Action → Worker α → Shared α σ → Prop where
  /- A request is queued. -/
  | requested :
      Stepped store limit now w s .requestStop
        { w with stopRequests := w.stopRequests + 1 } s
  /- It stops waiting, to make a pass. -/
  | woken
      (hStage : w.stage = .waiting)
      (hNone : w.stopRequests = 0) :
      Stepped store limit now w s .timeOut
        { w with stage := .passing .starting, stats := w.stats.tick } s
  /- It stops waiting, and ends. -/
  | stopped
      (hStage : w.stage = .waiting)
      (hRequest : w.stopRequests ≠ 0) :
      Stepped store limit now w s .work { w with stage := .stopped } s
  /- Its pass takes a step. -/
  | passed
      (f : Flushing α)
      (hStage : w.stage = .passing f)
      (hOngoing : f.outcome? = none) :
      Stepped store limit now w s .work
        { w with stage := .passing (f.step store limit now s).1 }
        (f.step store limit now s).2
  /- Its pass is over, and recorded. -/
  | recorded
      (result : FlushResult)
      (hStage : w.stage = .passing (.done result)) :
      Stepped store limit now w s .work
        { w with stage := .waiting, stats := w.stats.record result } s
  /- Nothing happens. -/
  | unchanged
      (action : Action)
      (hWorking : w.working action = .done .idle) :
      Stepped store limit now w s action w s

/- The pass of a worker takes a step if it is not over. -/
theorem step_work_of_ongoing
    (store : Store α σ)
    (limit : Duration)
    (now : Instant)
    {w : Worker α}
    {f : Flushing α}
    (hStage : w.stage = .passing f)
    (hOngoing : f.outcome? = none)
    (s : Shared α σ) :
    w.step store limit now .work s =
      ({ w with stage := .passing (f.step store limit now s).1 },
        (f.step store limit now s).2) := by
  simp only [step, hStage]
  cases f with
  | done result => exact absurd hOngoing nofun
  | _ => rfl

/- A worker does nothing else. -/
theorem stepped
    (store : Store α σ)
    (limit : Duration)
    (now : Instant)
    (action : Action)
    (w : Worker α)
    (s : Shared α σ) :
    Stepped store limit now w s action
      (w.step store limit now action s).1
      (w.step store limit now action s).2 := by
  cases action with
  | requestStop => exact .requested
  | timeOut =>
      cases hStage : w.stage with
      | waiting =>
          by_cases hNone : w.stopRequests = 0
          · simp only [step, hStage, if_pos hNone]
            exact .woken hStage hNone
          · simp only [step, hStage, if_neg hNone]
            exact .unchanged _ rfl
      | _ =>
          simp only [step, hStage]
          exact .unchanged _ rfl
  | work =>
      cases hStage : w.stage with
      | waiting =>
          by_cases hNone : w.stopRequests = 0
          · simp only [step, hStage, if_pos hNone]
            exact .unchanged _ (pass_of_waiting hStage)
          · simp only [step, hStage, if_neg hNone]
            exact .stopped hStage hNone
      | passing f =>
          cases hOutcome : f.outcome? with
          | none =>
              rw [step_work_of_ongoing store limit now hStage hOutcome]
              exact .passed f hStage hOutcome
          | some result =>
              rw [Flushing.outcome?_eq_some_iff] at hOutcome
              subst hOutcome
              simp only [step, hStage]
              exact .recorded result hStage
      | stopped =>
          simp only [step, hStage]
          exact .unchanged _ (pass_of_stopped hStage)

end Worker

------------------------------------------------------------
-- Counts
------------------------------------------------------------

/- What a refill counts as evicted, and what waits then. -/
theorem Buffer.count_refill
    (b : Buffer α)
    (items : List α) :
    (b.refill items).2.evicted + (b.refill items).2.length =
      b.evicted + items.length := by
  have hParts := congrArg List.length (b.overflow_append_items items)
  rw [List.length_append] at hParts
  rw [evicted_refill, length]
  omega

/- Putting items back counts them. -/
theorem Buffer.count_requeue
    (b : Buffer α)
    (failed : List α) :
    (b.requeue failed).2.evicted + (b.requeue failed).2.length =
      b.evicted + b.length + failed.length := by
  cases failed with
  | nil => rfl
  | cons first rest =>
      have hCount := b.count_refill (first :: rest ++ b.items)
      rw [List.length_append] at hCount
      simp only [requeue, List.isEmpty_cons, Bool.false_eq_true, if_false,
        length] at hCount ⊢
      omega

/- A step of a call counts what it pushes. -/
theorem Publishing.count_step
    (store : Store α σ)
    (limit : Duration)
    (now : Instant)
    (p : Publishing α)
    (s : Shared α σ) :
    (p.step store limit now s).2.buffer.evicted +
        (p.step store limit now s).2.buffer.length =
      s.buffer.evicted + s.buffer.length + p.pushing.length := by
  cases p with
  | probing item policy =>
      simp only [step]
      split <;> rfl
  | appending item policy =>
      simp only [step]
      split
      · rfl
      · split <;> rfl
  | buffering item =>
      have hCount := s.buffer.count_refill (s.buffer.items ++ [item])
      rw [List.length_append, ← Nat.add_assoc] at hCount
      exact hCount
  | done result => rfl

namespace Flushing

/- How many items a pass appended or dropped so far. -/
def settled : Flushing α → Nat
  | offering tally _ => tally.published + tally.dropped
  | requeueing tally _ => tally.published + tally.dropped
  | measuring tally => tally.published + tally.dropped
  | done result => result.published + result.dropped
  | _ => 0

/- How many items a pass put back so far. -/
def missed : Flushing α → Nat
  | measuring tally =>
      tally.attempted - tally.published - tally.dropped
  | done result =>
      result.attempted - result.published - result.dropped
  | _ => 0

/- The items that a pass puts back in its next step. -/
def returning : Flushing α → List α
  | requeueing _ failed => failed
  | _ => []

/-
  Every item that a pass took was appended, was dropped, or is
  in hand.  Once those in hand were put back, at least no more
  were appended and dropped than were taken.
-/
def Tallied : Flushing α → Prop
  | offering tally batch =>
      tally.published + tally.dropped + batch.length = tally.attempted
  | requeueing tally failed =>
      tally.published + tally.dropped + failed.length = tally.attempted
  | measuring tally => tally.published + tally.dropped ≤ tally.attempted
  | done result => result.published + result.dropped ≤ result.attempted
  | _ => True

section Steps

variable (store : Store α σ)
variable (limit : Duration)
variable (now : Instant)
variable (s : Shared α σ)

/- A pass that tallied goes on to. -/
theorem tallied_step
    {f : Flushing α}
    (hTallied : f.Tallied) :
    (f.step store limit now s).1.Tallied := by
  cases f with
  | starting =>
      simp only [step]
      split
      · exact Nat.le_refl 0
      · trivial
  | probing =>
      simp only [step]
      split <;> trivial
  | skipping => exact Nat.le_refl 0
  | taking => exact Nat.zero_add _
  | offering tally batch =>
      cases batch with
      | nil => exact hTallied
      | cons item rest =>
          simp only [Tallied, List.length_cons] at hTallied
          simp only [step]
          split
          · simp only [Tallied]
            omega
          · split
            · exact hTallied
            · simp only [Tallied]
              omega
  | requeueing tally failed => exact Nat.le.intro hTallied
  | measuring tally => exact hTallied
  | done result => exact hTallied

/-
  A step of a pass changes where items are, but not how many
  were settled, are in hand, were evicted, or wait.
-/
theorem count_step
    (f : Flushing α) :
    (f.step store limit now s).1.settled +
        (f.step store limit now s).1.held.length +
        ((f.step store limit now s).2.buffer.evicted +
          (f.step store limit now s).2.buffer.length) =
      f.settled + f.held.length +
        (s.buffer.evicted + s.buffer.length) := by
  cases f with
  | starting =>
      simp only [step]
      split <;> rfl
  | probing =>
      simp only [step]
      split <;> rfl
  | skipping => rfl
  | taking =>
      simp only [step, Buffer.takeAll, settled, held, Buffer.length,
        List.length_nil]
      omega
  | offering tally batch =>
      cases batch with
      | nil => rfl
      | cons item rest =>
          simp only [step]
          split
          · simp only [settled, held, List.length_cons]
            omega
          · split
            · rfl
            · simp only [settled, held, List.length_cons]
              omega
  | requeueing tally failed =>
      have hCount := s.buffer.count_requeue failed
      simp only [step, settled, held, List.length_nil]
      omega
  | measuring tally => rfl
  | done result => rfl

/- A step of a pass counts what it puts back. -/
theorem missed_step
    {f : Flushing α}
    (hTallied : f.Tallied) :
    (f.step store limit now s).1.missed =
      f.missed + f.returning.length := by
  cases f with
  | starting =>
      simp only [step]
      split <;> rfl
  | probing =>
      simp only [step]
      split <;> rfl
  | skipping => rfl
  | taking => rfl
  | offering tally batch =>
      cases batch with
      | nil => rfl
      | cons item rest =>
          simp only [step]
          split
          · rfl
          · split <;> rfl
  | requeueing tally failed =>
      simp only [Tallied] at hTallied
      simp only [step, missed, returning]
      omega
  | measuring tally => rfl
  | done result => rfl

end Steps

end Flushing

end Courier
