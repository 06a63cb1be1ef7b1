import Courier.Proofs.Outbox.Upkeep

/-
  The books of a worker that looks after an outbox balance.
  Whatever the store answers, and however its steps fall among
  those of calls that publish and among requests to stop it,
  every item that was pushed into the buffer is found in one
  of the counts between two passes, every item that was put
  back is counted as often as it was, and no pass is counted
  twice or left out.

  A request to stop a worker keeps it from waiting on, so only
  a pass that it was about to make still begins.  Once it has
  ended it changes nothing.

  Key definitions include:
    * `Worklog`
    * `FlushStats.ofOutcomes`
    * `Worker.Counts`
    * `Worklog.Sound`

  Main statements:
    * `Worklog.sound_run`
    * `Worklog.begun_run_of_requested`
    * `Worklog.stopped_run`
    * `Worklog.worker_accounted`
-/

namespace Courier

variable {α σ : Type}

------------------------------------------------------------
-- What happens
------------------------------------------------------------

/- How many passes take their first step when one steps. -/
def Flushing.beginning : Flushing α → Nat
  | starting => 1
  | _ => 0

/- The outcome that a pass reaches in its next step. -/
def Flushing.ending
    (store : Store α σ)
    (limit : Duration)
    (now : Instant)
    (s : Shared α σ)
    (f : Flushing α) : List FlushResult :=
  match f.outcome? with
  | some _ => []
  | none => (f.step store limit now s).1.outcome?.toList

namespace Upkeep

/- The items that calls push in a move. -/
def pushing
    {β : Type}
    (u : Upkeep α σ) : Move β → List α
  | .advance n _ =>
      match u.publishings[n]? with
      | none => []
      | some p => p.pushing
  | _ => []

/- The pass that takes a step in a move. -/
def working
    {β : Type}
    (u : Upkeep α σ) : Move β → Flushing α
  | .worker action _ => u.worker.working action
  | _ => .done .idle

/- The outcome that a pass reaches in a move. -/
def ending
    {β : Type}
    (store : Store α σ)
    (limit : Duration)
    (u : Upkeep α σ) : Move β → List FlushResult
  | .worker action now =>
      (u.worker.working action).ending store limit now u.shared
  | _ => []

end Upkeep

/- An outbox with its worker, and what happened so far. -/
structure Worklog (α σ : Type) where
  upkeep : Upkeep α σ
  /- The items that calls pushed into the buffer, oldest push first. -/
  pushed : List α
  /- The items that passes put back, as often as they did. -/
  returned : List α
  /- How many passes took their first step. -/
  begun : Nat
  /- The outcomes of the passes that are over, oldest first. -/
  outcomes : List FlushResult

namespace Worklog

/- An outbox that nobody has used yet, and a new worker. -/
def create
    (capacity : Nat)
    (s : σ) : Worklog α σ where
  upkeep := .create capacity s
  pushed := []
  returned := []
  begun := 0
  outcomes := []

/- Make a move, and keep what happens. -/
def step
    (store : Store α σ)
    (limit : Duration)
    (move : Upkeep.Move α)
    (g : Worklog α σ) : Worklog α σ where
  upkeep := g.upkeep.step store limit move
  pushed := g.pushed ++ g.upkeep.pushing move
  returned := g.returned ++ (g.upkeep.working move).returning
  begun := g.begun + (g.upkeep.working move).beginning
  outcomes := g.outcomes ++ g.upkeep.ending store limit move

/- Make some moves, one after the other. -/
def run
    (store : Store α σ)
    (limit : Duration) :
    List (Upkeep.Move α) → Worklog α σ → Worklog α σ
  | [], g => g
  | move :: rest, g => run store limit rest (step store limit move g)

/- The worker. -/
def worker
    (g : Worklog α σ) : Worker α :=
  g.upkeep.worker

/- The buffer. -/
def buffer
    (g : Worklog α σ) : Buffer α :=
  g.upkeep.shared.buffer

/- What is kept changes nothing. -/
theorem upkeep_run
    (store : Store α σ)
    (limit : Duration)
    (moves : List (Upkeep.Move α))
    (g : Worklog α σ) :
    (g.run store limit moves).upkeep = g.upkeep.run store limit moves := by
  induction moves generalizing g with
  | nil => rfl
  | cons move rest ih => exact ih (g.step store limit move)

section Moves

variable {store : Store α σ} {limit : Duration} {g : Worklog α σ}

/- Nothing is kept of a call that hands an item in. -/
theorem step_publish
    (item : α)
    (policy : EmitPolicy) :
    g.step store limit (.publish item policy) =
      { g with
        upkeep := g.upkeep.step store limit (.publish item policy) } := by
  simp [step, Upkeep.pushing, Upkeep.working, Upkeep.ending,
    Flushing.returning, Flushing.beginning]

/- A step of a call pushes its item, or none. -/
theorem step_advance
    {n : Nat}
    {p : Publishing α}
    (hCall : g.upkeep.publishings[n]? = some p)
    (now : Instant) :
    g.step store limit (.advance n now) =
      { g with
        upkeep :=
          { g.upkeep with
            shared := (p.step store limit now g.upkeep.shared).2
            publishings :=
              g.upkeep.publishings.set n
                (p.step store limit now g.upkeep.shared).1 }
        pushed := g.pushed ++ p.pushing } := by
  simp [step, Upkeep.step, Upkeep.pushing, Upkeep.working,
    Upkeep.ending, Flushing.returning, Flushing.beginning, hCall]

/- A call that has not begun takes no step. -/
theorem step_advance_of_none
    {n : Nat}
    (hCall : g.upkeep.publishings[n]? = none)
    (now : Instant) :
    g.step store limit (.advance n now) = g := by
  simp [step, Upkeep.step, Upkeep.pushing, Upkeep.working,
    Upkeep.ending, Flushing.returning, Flushing.beginning, hCall]

/- A step of the worker is one of its pass, or none of any. -/
theorem step_worker
    (action : Worker.Action)
    (now : Instant) :
    g.step store limit (.worker action now) =
      { g with
        upkeep :=
          { g.upkeep with
            shared :=
              (g.worker.step store limit now action g.upkeep.shared).2
            worker :=
              (g.worker.step store limit now action g.upkeep.shared).1 }
        returned := g.returned ++ (g.worker.working action).returning
        begun := g.begun + (g.worker.working action).beginning
        outcomes :=
          g.outcomes ++
            (g.worker.working action).ending store limit now
              g.upkeep.shared } := by
  simp [step, Upkeep.step, Upkeep.pushing, Upkeep.working,
    Upkeep.ending, worker]

end Moves

end Worklog

------------------------------------------------------------
-- The counts of a worker
------------------------------------------------------------

namespace FlushStats

/- The counts over passes with given outcomes. -/
def ofOutcomes
    (outcomes : List FlushResult) : FlushStats where
  ticks := outcomes.length
  skipped := outcomes.countP (·.skipped)
  published := (outcomes.map (·.published)).sum
  failed :=
    (outcomes.map fun r => r.attempted - r.published - r.dropped).sum
  dropped := (outcomes.map (·.dropped)).sum

/- A pass that is ticked and recorded is counted once. -/
theorem record_tick_ofOutcomes
    (outcomes : List FlushResult)
    (result : FlushResult) :
    (ofOutcomes outcomes).tick.record result = ofOutcomes (outcomes ++ [result]) := by
  simp [ofOutcomes, tick, record, List.countP_append, List.countP_singleton]

/- No more passes are skipped than were made. -/
theorem skipped_ofOutcomes_le
    (outcomes : List FlushResult) :
    (ofOutcomes outcomes).skipped ≤ (ofOutcomes outcomes).ticks :=
  List.countP_le_length

end FlushStats

namespace Flushing

/- A pass begins but once. -/
theorem beginning_step
    (store : Store α σ)
    (limit : Duration)
    (now : Instant)
    (f : Flushing α)
    (s : Shared α σ) :
    (f.step store limit now s).1.beginning = 0 := by
  cases f with
  | starting =>
      simp only [step]
      split <;> rfl
  | probing =>
      simp only [step]
      split <;> rfl
  | offering tally batch =>
      cases batch with
      | nil => rfl
      | cons item rest =>
          simp only [step]
          split
          · rfl
          · split <;> rfl
  | _ => rfl

/- A pass that is not over may reach its outcome. -/
theorem ending_of_ongoing
    (store : Store α σ)
    (limit : Duration)
    (now : Instant)
    {f : Flushing α}
    (hOngoing : f.outcome? = none)
    (s : Shared α σ) :
    f.ending store limit now s =
      (f.step store limit now s).1.outcome?.toList := by
  rw [ending, hOngoing]

end Flushing

namespace Worker

/-
  What a worker at a stage counted, once a number of passes
  began, and some of them had outcomes.
-/
inductive Counts
    (stage : Stage α)
    (stats : FlushStats)
    (begun : Nat)
    (outcomes : List FlushResult) : Prop where
  /- It makes no pass, and counted all. -/
  | resting
      (hStage : stage = .waiting ∨ stage = .stopped)
      (hBegun : begun = outcomes.length)
      (hStats : stats = .ofOutcomes outcomes)
  /- It is making a pass, which it ticked. -/
  | passing
      (f : Flushing α)
      (hStage : stage = .passing f)
      (hOngoing : f.outcome? = none)
      (hBegun : begun + f.beginning = outcomes.length + 1)
      (hStats : stats = (FlushStats.ofOutcomes outcomes).tick)
  /- Its last pass is over, and yet to be recorded. -/
  | ending
      (result : FlushResult)
      (earlier : List FlushResult)
      (hStage : stage = .passing (.done result))
      (hOutcomes : outcomes = earlier ++ [result])
      (hBegun : begun = outcomes.length)
      (hStats : stats = (FlushStats.ofOutcomes earlier).tick)

/- A worker is between two passes, if it made any. -/
inductive AtRest
    (w : Worker α) : Prop where
  | waiting (hStage : w.stage = .waiting)
  | starting (hStage : w.stage = .passing .starting)
  | stopped (hStage : w.stage = .stopped)

/- No items are in hand between two passes, nor any uncounted. -/
theorem AtRest.pass
    {w : Worker α}
    (hRest : w.AtRest) :
    w.pass.settled = 0 ∧ w.pass.held = [] ∧ w.pass.missed = 0 := by
  cases hRest with
  | waiting hStage =>
      rw [pass_of_waiting hStage]
      exact ⟨rfl, rfl, rfl⟩
  | starting hStage =>
      rw [pass_of_passing hStage]
      exact ⟨rfl, rfl, rfl⟩
  | stopped hStage =>
      rw [pass_of_stopped hStage]
      exact ⟨rfl, rfl, rfl⟩

/- Only a worker that is about to make a pass may begin one. -/
theorem beginning_pass
    (w : Worker α) :
    w.pass.beginning = 0 ∨
      w.pass.beginning = 1 ∧ w.stage = .passing .starting := by
  cases hStage : w.stage with
  | waiting =>
      rw [pass_of_waiting hStage]
      exact .inl rfl
  | passing f =>
      rw [pass_of_passing hStage]
      cases f with
      | starting => exact .inr ⟨rfl, rfl⟩
      | _ => exact .inl rfl
  | stopped =>
      rw [pass_of_stopped hStage]
      exact .inl rfl

/- A worker that makes no pass counted all. -/
theorem Counts.of_not_passing
    {stage : Stage α}
    {stats : FlushStats}
    {begun : Nat}
    {outcomes : List FlushResult}
    (hCounts : Counts stage stats begun outcomes)
    (hNone : ∀ f, stage ≠ .passing f) :
    begun = outcomes.length ∧ stats = .ofOutcomes outcomes := by
  cases hCounts with
  | resting hStage hBegun hStats => exact ⟨hBegun, hStats⟩
  | passing f hStage => exact absurd hStage (hNone f)
  | ending result earlier hStage => exact absurd hStage (hNone _)

/- No more passes are counted as skipped than as made. -/
theorem Counts.skipped_le
    {stage : Stage α}
    {stats : FlushStats}
    {begun : Nat}
    {outcomes : List FlushResult}
    (hCounts : Counts stage stats begun outcomes) :
    stats.skipped ≤ stats.ticks := by
  cases hCounts with
  | resting hStage hBegun hStats =>
      rw [hStats]
      exact FlushStats.skipped_ofOutcomes_le outcomes
  | passing f hStage hOngoing hBegun hStats =>
      rw [hStats]
      exact Nat.le_succ_of_le (FlushStats.skipped_ofOutcomes_le outcomes)
  | ending result earlier hStage hOutcomes hBegun hStats =>
      rw [hStats]
      exact Nat.le_succ_of_le (FlushStats.skipped_ofOutcomes_le earlier)

section Steps

variable {store : Store α σ}
variable {limit : Duration}
variable {now : Instant}
variable {action : Action}
variable {w w' : Worker α}
variable {s s' : Shared α σ}

/- A pass of a worker that tallied goes on to. -/
theorem Stepped.tallied
    (hStepped : Stepped store limit now w s action w' s')
    (hTallied : w.pass.Tallied) :
    w'.pass.Tallied := by
  cases hStepped with
  | requested => exact hTallied
  | woken hStage hNone => trivial
  | stopped hStage hRequest => exact Nat.le_refl 0
  | passed f hStage hOngoing =>
      rw [pass_of_passing hStage] at hTallied
      exact Flushing.tallied_step store limit now s hTallied
  | recorded result hStage => exact Nat.le_refl 0
  | unchanged action hWorking => exact hTallied

/- A step of a worker loses no item without counting it. -/
theorem Stepped.balanced
    (hStepped : Stepped store limit now w s action w' s') :
    w'.stats.published + w'.stats.dropped +
        (w'.pass.settled + w'.pass.held.length) +
        (s'.buffer.evicted + s'.buffer.length) =
      w.stats.published + w.stats.dropped +
        (w.pass.settled + w.pass.held.length) +
        (s.buffer.evicted + s.buffer.length) := by
  cases hStepped with
  | requested => rfl
  | woken hStage hNone =>
      rw [pass_of_waiting hStage]
      rfl
  | stopped hStage hRequest =>
      rw [pass_of_waiting hStage]
      rfl
  | passed f hStage hOngoing =>
      have hCount := Flushing.count_step store limit now s f
      rw [pass_of_passing hStage]
      simp only [pass]
      omega
  | recorded result hStage =>
      rw [pass_of_passing hStage]
      simp only [pass, FlushStats.record, Flushing.settled,
        Flushing.held, FlushResult.idle, List.length_nil]
      omega
  | unchanged action hWorking => rfl

/- A step of a worker counts what its pass puts back. -/
theorem Stepped.missed
    (hStepped : Stepped store limit now w s action w' s')
    (hTallied : w.pass.Tallied) :
    w'.stats.failed + w'.pass.missed =
      w.stats.failed + w.pass.missed +
        (w.working action).returning.length := by
  cases hStepped with
  | requested => rfl
  | woken hStage hNone =>
      rw [pass_of_waiting hStage]
      rfl
  | stopped hStage hRequest =>
      rw [working, pass_of_waiting hStage]
      rfl
  | passed f hStage hOngoing =>
      rw [pass_of_passing hStage] at hTallied
      have hMissed := Flushing.missed_step store limit now s hTallied
      rw [working, pass_of_passing hStage]
      simp only [pass]
      omega
  | recorded result hStage =>
      rw [working, pass_of_passing hStage]
      rfl
  | unchanged action hWorking =>
      rw [hWorking]
      rfl

/- A step in which no pass takes one leaves the counts alone. -/
theorem Counts.of_idle
    {stage : Stage α}
    {stats : FlushStats}
    {begun : Nat}
    {outcomes : List FlushResult}
    {f : Flushing α}
    {result : FlushResult}
    (hCounts : Counts stage stats begun outcomes)
    (hOver : f = .done result) :
    Counts stage stats (begun + f.beginning)
      (outcomes ++ f.ending store limit now s) := by
  subst hOver
  simpa [Flushing.beginning, Flushing.ending, Flushing.outcome?]
    using hCounts

/- A step of a pass is counted once it has its outcome. -/
theorem Counts.passed
    {stats : FlushStats}
    {begun : Nat}
    {outcomes : List FlushResult}
    {f : Flushing α}
    (hCounts : Counts (.passing f) stats begun outcomes)
    (hOngoing : f.outcome? = none) :
    Counts (.passing (f.step store limit now s).1) stats
      (begun + f.beginning)
      (outcomes ++ f.ending store limit now s) := by
  rw [Flushing.ending_of_ongoing store limit now hOngoing]
  cases hCounts with
  | resting hStage => simp at hStage
  | ending result earlier hStage =>
      cases hStage
      exact absurd hOngoing nofun
  | passing f' hStage hOngoing' hBegun hStats =>
      cases hStage
      cases hOutcome : (f.step store limit now s).1.outcome? with
      | none =>
          refine .passing _ rfl hOutcome ?_ ?_
          · rw [Flushing.beginning_step]
            simpa using hBegun
          · simpa using hStats
      | some result =>
          have hOver := (Flushing.outcome?_eq_some_iff _ _).mp hOutcome
          refine .ending result outcomes ?_ rfl ?_ hStats
          · rw [hOver]
          · simpa using hBegun

/- A pass that is recorded is counted with the others. -/
theorem Counts.recorded
    {stats : FlushStats}
    {begun : Nat}
    {outcomes : List FlushResult}
    {result : FlushResult}
    (hCounts :
      Counts (.passing (.done result) : Stage α) stats begun outcomes) :
    Counts (.waiting : Stage α) (stats.record result) begun outcomes := by
  cases hCounts with
  | resting hStage => simp at hStage
  | passing f hStage hOngoing =>
      cases hStage
      exact absurd hOngoing nofun
  | ending result' earlier hStage hOutcomes hBegun hStats =>
      cases hStage
      refine .resting (.inl rfl) hBegun ?_
      rw [hStats, FlushStats.record_tick_ofOutcomes, hOutcomes]

/- A step of a worker counts the pass that is over, if any. -/
theorem Stepped.counts
    {begun : Nat}
    {outcomes : List FlushResult}
    (hStepped : Stepped store limit now w s action w' s')
    (hCounts : Counts w.stage w.stats begun outcomes) :
    Counts w'.stage w'.stats
      (begun + (w.working action).beginning)
      (outcomes ++ (w.working action).ending store limit now s) := by
  cases hStepped with
  | requested => exact hCounts.of_idle rfl
  | woken hStage hNone =>
      rw [hStage] at hCounts
      rcases hCounts.of_not_passing nofun with ⟨hBegun, hStats⟩
      refine Counts.of_idle (.passing .starting rfl rfl ?_ ?_) rfl
      · rw [hBegun]
        rfl
      · rw [hStats]
  | stopped hStage hRequest =>
      rw [hStage] at hCounts
      rcases hCounts.of_not_passing nofun with ⟨hBegun, hStats⟩
      exact Counts.of_idle (.resting (.inr rfl) hBegun hStats)
        (pass_of_waiting hStage)
  | passed f hStage hOngoing =>
      rw [hStage] at hCounts
      rw [working, pass_of_passing hStage]
      exact hCounts.passed hOngoing
  | recorded result hStage =>
      rw [hStage] at hCounts
      exact hCounts.recorded.of_idle (pass_of_passing hStage)
  | unchanged action hWorking => exact hCounts.of_idle hWorking

/-
  While a request is queued no further pass is ticked, and none
  begins but the one that the worker was about to make.
-/
theorem Stepped.requested_after
    (hStepped : Stepped store limit now w s action w' s')
    (hRequest : w.stopRequests ≠ 0) :
    w'.stopRequests ≠ 0 ∧
      w'.stats.ticks = w.stats.ticks ∧
      (w.working action).beginning + w'.pass.beginning =
        w.pass.beginning := by
  cases hStepped with
  | requested => exact ⟨Nat.succ_ne_zero _, rfl, Nat.zero_add _⟩
  | woken hStage hNone => exact absurd hNone hRequest
  | stopped hStage hRequest' =>
      refine ⟨hRequest, rfl, ?_⟩
      rw [working, pass_of_waiting hStage]
      rfl
  | passed f hStage hOngoing =>
      refine ⟨hRequest, rfl, ?_⟩
      rw [working, pass_of_passing hStage]
      simp only [pass, Flushing.beginning_step, Nat.add_zero]
  | recorded result hStage =>
      refine ⟨hRequest, rfl, ?_⟩
      rw [working, pass_of_passing hStage]
      rfl
  | unchanged action hWorking =>
      refine ⟨hRequest, rfl, ?_⟩
      rw [hWorking]
      exact Nat.zero_add _

/- No pass of a worker that has ended takes a step. -/
theorem working_of_ended
    (hStage : w.stage = .stopped)
    (action : Action) :
    w.working action = .done .idle := by
  cases action with
  | work => exact pass_of_stopped hStage
  | _ => rfl

/- A worker that has ended does nothing but queue requests. -/
theorem Stepped.ended_after
    (hStepped : Stepped store limit now w s action w' s')
    (hStage : w.stage = .stopped) :
    w'.stage = .stopped ∧ w'.stats = w.stats ∧ s' = s := by
  cases hStepped with
  | requested => exact ⟨hStage, rfl, rfl⟩
  | unchanged action hWorking => exact ⟨hStage, rfl, rfl⟩
  | woken hStage' => simp [hStage'] at hStage
  | stopped hStage' => simp [hStage'] at hStage
  | passed f hStage' => simp [hStage'] at hStage
  | recorded result hStage' => simp [hStage'] at hStage

end Steps

end Worker

------------------------------------------------------------
-- Runs
------------------------------------------------------------

namespace Worklog

/-
  The books balance: what was pushed was settled, is in hand,
  was evicted or waits, what was put back is counted, and so
  are the passes.
-/
structure Sound
    (g : Worklog α σ) : Prop where
  tallied : g.worker.pass.Tallied
  balanced :
    g.worker.stats.published + g.worker.stats.dropped +
        (g.worker.pass.settled + g.worker.pass.held.length) +
        (g.buffer.evicted + g.buffer.length) =
      g.pushed.length
  missed :
    g.worker.stats.failed + g.worker.pass.missed = g.returned.length
  counts :
    Worker.Counts g.worker.stage g.worker.stats g.begun g.outcomes

variable {store : Store α σ} {limit : Duration} {g : Worklog α σ}

/- The books of a new worker balance. -/
theorem sound_create
    (capacity : Nat)
    (s : σ) :
    (create capacity s : Worklog α σ).Sound where
  tallied := Nat.le_refl 0
  balanced := rfl
  missed := rfl
  counts := .resting (.inl rfl) rfl rfl

/- They balance after a step of a call. -/
theorem Sound.advance
    (hSound : g.Sound)
    {n : Nat}
    (now : Instant) :
    (g.step store limit (.advance n now)).Sound := by
  cases hCall : g.upkeep.publishings[n]? with
  | none =>
      rw [step_advance_of_none hCall]
      exact hSound
  | some p =>
      rw [step_advance hCall]
      refine ⟨hSound.tallied, ?_, hSound.missed, hSound.counts⟩
      have hCount := p.count_step store limit now g.upkeep.shared
      have hBalanced := hSound.balanced
      simp only [worker, buffer, List.length_append] at hBalanced ⊢
      omega

/- They balance after a step of the worker. -/
theorem Sound.worker
    (hSound : g.Sound)
    (action : Worker.Action)
    (now : Instant) :
    (g.step store limit (.worker action now)).Sound := by
  have hStepped :=
    Worker.stepped store limit now action g.worker g.upkeep.shared
  rw [step_worker]
  constructor
  · exact hStepped.tallied hSound.tallied
  · exact hStepped.balanced.trans hSound.balanced
  · have hMissed := hStepped.missed hSound.tallied
    rw [hSound.missed, ← List.length_append] at hMissed
    exact hMissed
  · exact hStepped.counts hSound.counts

/- They balance after any move. -/
theorem Sound.step
    (hSound : g.Sound)
    (move : Upkeep.Move α) :
    (g.step store limit move).Sound := by
  cases move with
  | publish item policy =>
      rw [step_publish]
      exact ⟨hSound.tallied, hSound.balanced, hSound.missed, hSound.counts⟩
  | advance n now => exact hSound.advance now
  | worker action now => exact hSound.worker action now

/- They balance at any time. -/
theorem sound_run
    (store : Store α σ)
    (limit : Duration)
    (moves : List (Upkeep.Move α))
    (hSound : g.Sound) :
    (g.run store limit moves).Sound := by
  induction moves generalizing g with
  | nil => exact hSound
  | cons move rest ih => exact ih (hSound.step move)

/- A move of a call changes nothing about the worker. -/
theorem worker_step_advance
    (n : Nat)
    (now : Instant) :
    (g.step store limit (.advance n now)).worker = g.worker := by
  simp only [step, Upkeep.step, worker]
  split <;> rfl

/-
  While a request is queued no move ticks a pass, and none
  begins one but that which the worker was about to make.
-/
theorem begun_step_of_requested
    (store : Store α σ)
    (limit : Duration)
    (move : Upkeep.Move α)
    (hRequest : g.worker.stopRequests ≠ 0) :
    (g.step store limit move).worker.stopRequests ≠ 0 ∧
      (g.step store limit move).worker.stats.ticks =
        g.worker.stats.ticks ∧
      (g.step store limit move).begun +
          (g.step store limit move).worker.pass.beginning =
        g.begun + g.worker.pass.beginning := by
  cases move with
  | publish item policy => exact ⟨hRequest, rfl, rfl⟩
  | advance n now =>
      rw [worker_step_advance]
      exact ⟨hRequest, rfl, rfl⟩
  | worker action now =>
      have hAfter :=
        (Worker.stepped store limit now action g.worker
          g.upkeep.shared).requested_after hRequest
      rw [← hAfter.2.2, ← Nat.add_assoc, step_worker]
      exact ⟨hAfter.1, hAfter.2.1, rfl⟩

/- No run does, either. -/
theorem begun_run_of_requested
    (store : Store α σ)
    (limit : Duration)
    (moves : List (Upkeep.Move α))
    (hRequest : g.worker.stopRequests ≠ 0) :
    (g.run store limit moves).worker.stats.ticks =
        g.worker.stats.ticks ∧
      (g.run store limit moves).begun +
          (g.run store limit moves).worker.pass.beginning =
        g.begun + g.worker.pass.beginning := by
  induction moves generalizing g with
  | nil => exact ⟨rfl, rfl⟩
  | cons move rest ih =>
      rcases begun_step_of_requested store limit move hRequest with
        ⟨hStill, hTicks, hBegun⟩
      rcases ih hStill with ⟨hTicksAfter, hBegunAfter⟩
      exact ⟨hTicksAfter.trans hTicks, hBegunAfter.trans hBegun⟩

/- A worker that has ended changes neither buffer nor store. -/
theorem shared_step_of_ended
    (hStage : g.worker.stage = .stopped)
    (action : Worker.Action)
    (now : Instant) :
    (g.step store limit (.worker action now)).upkeep.shared =
      g.upkeep.shared :=
  ((Worker.stepped store limit now action g.worker
    g.upkeep.shared).ended_after hStage).2.2

/- A worker that has ended makes no more passes in any move. -/
theorem stopped_step
    (store : Store α σ)
    (limit : Duration)
    (move : Upkeep.Move α)
    (hStage : g.worker.stage = .stopped) :
    (g.step store limit move).worker.stage = .stopped ∧
      (g.step store limit move).worker.stats = g.worker.stats ∧
      (g.step store limit move).begun = g.begun := by
  cases move with
  | publish item policy =>
      rw [step_publish]
      exact ⟨hStage, rfl, rfl⟩
  | advance n now =>
      rw [worker_step_advance]
      exact ⟨hStage, rfl, rfl⟩
  | worker action now =>
      have hAfter :=
        (Worker.stepped store limit now action g.worker
          g.upkeep.shared).ended_after hStage
      have hWorking := Worker.working_of_ended hStage action
      rw [step_worker, hWorking]
      exact ⟨hAfter.1, hAfter.2.1, rfl⟩

/- Nor does it in any run. -/
theorem stopped_run
    (store : Store α σ)
    (limit : Duration)
    (moves : List (Upkeep.Move α))
    (hStage : g.worker.stage = .stopped) :
    (g.run store limit moves).worker.stage = .stopped ∧
      (g.run store limit moves).worker.stats = g.worker.stats ∧
      (g.run store limit moves).begun = g.begun := by
  induction moves generalizing g with
  | nil => exact ⟨hStage, rfl, rfl⟩
  | cons move rest ih =>
      rcases stopped_step store limit move hStage with
        ⟨hStill, hStats, hBegun⟩
      rcases ih hStill with ⟨hStage', hStatsAfter, hBegunAfter⟩
      exact
        ⟨hStage', hStatsAfter.trans hStats, hBegunAfter.trans hBegun⟩

/-
  Whatever the store answers, and in whatever order the worker
  of an outbox, any number of calls that publish on it, and
  any requests to stop the worker take their steps:
    * between two passes each item that was pushed into the
      buffer is counted as published or dropped by the worker,
      was evicted, or waits, and the worker counted each item
      that was put back, as often as it was;
    * a pass never settles more items than it took;
    * no more passes are skipped than were made;
    * once a request to stop is queued, no pass begins but one
      that the worker had stopped waiting for;
    * once the worker has ended it stays so, its steps leave
      buffer and store alone, it begins no pass, and it has
      counted each pass that it made once.
  All of them act as they do when nothing is kept about them.
-/
theorem worker_accounted
    (store : Store α σ)
    (limit : Duration)
    (capacity : Nat)
    (s : σ)
    (moves later : List (Upkeep.Move α)) :
    let g := (create capacity s : Worklog α σ).run store limit moves
    let g' := g.run store limit later
    g.upkeep = (Upkeep.create capacity s).run store limit moves ∧
      (g.worker.AtRest →
        g.pushed.length =
            g.worker.stats.published + g.worker.stats.dropped +
              g.buffer.evicted + g.buffer.length ∧
          g.worker.stats.failed = g.returned.length) ∧
      (∀ result, g.worker.stage = .passing (.done result) →
        result.published + result.dropped ≤ result.attempted) ∧
      g.worker.stats.skipped ≤ g.worker.stats.ticks ∧
      (g.worker.stopRequests ≠ 0 →
        g'.worker.stats.ticks = g.worker.stats.ticks ∧
          g'.begun ≤ g.begun + 1 ∧
          (g.begun < g'.begun →
            g.worker.stage = .passing .starting)) ∧
      (∀ stats, g.worker.outcome? = some stats →
        g'.worker.outcome? = some stats ∧
          (∀ action now,
            (g'.upkeep.step store limit (.worker action now)).shared =
              g'.upkeep.shared) ∧
          g'.begun = g.begun ∧
          g'.begun = g'.outcomes.length ∧
          stats = .ofOutcomes g'.outcomes) := by
  intro g g'
  have hSound : g.Sound :=
    sound_run store limit moves (sound_create capacity s)
  refine ⟨upkeep_run store limit moves _, ?_, ?_, ?_, ?_, ?_⟩
  · intro hRest
    rcases hRest.pass with ⟨hSettled, hHeld, hMissed⟩
    have hBalanced := hSound.balanced
    have hReturned := hSound.missed
    rw [hSettled, hHeld, List.length_nil] at hBalanced
    rw [hMissed] at hReturned
    exact ⟨by omega, hReturned⟩
  · intro result hStage
    have hTallied := hSound.tallied
    rw [Worker.pass_of_passing hStage] at hTallied
    exact hTallied
  · exact hSound.counts.skipped_le
  · intro hRequest
    rcases begun_run_of_requested store limit later hRequest with
      ⟨hTicks, hBegun⟩
    have hAtMost : g'.begun ≤ g.begun + g.worker.pass.beginning :=
      Nat.le.intro hBegun
    refine ⟨hTicks, ?_⟩
    -- What may still begin is the pass that is about to, if any is.
    rcases g.worker.beginning_pass with hNone | ⟨hOne, hStage⟩
    · exact ⟨by omega, fun hMore => absurd hMore (by omega)⟩
    · exact ⟨by omega, fun _ => hStage⟩
  · intro stats hOutcome
    rcases (g.worker.outcome?_eq_some_iff stats).mp hOutcome with
      ⟨hStage, hStats⟩
    have hStopped := stopped_run store limit later hStage
    have hSound' : g'.Sound := sound_run store limit later hSound
    have hCounts := hSound'.counts
    rw [hStopped.1] at hCounts
    rcases hCounts.of_not_passing nofun with ⟨hBegun, hOver⟩
    have hSame : g'.worker.stats = stats := hStopped.2.1.trans hStats
    refine ⟨?_, ?_, hStopped.2.2, hBegun, hSame.symm.trans hOver⟩
    · exact (Worker.outcome?_eq_some_iff _ _).mpr ⟨hStopped.1, hSame⟩
    · intro action now
      exact shared_step_of_ended hStopped.1 action now

/-
  On an outbox with room for one item, a second item is pushed
  while the worker has the first in hand.  The pass loses the
  store and puts the first back, which makes way at once.
-/
def crowdedMoves : List (Upkeep.Move String) :=
  [ .publish "first" .required
  , .advance 0 ⟨0⟩, .advance 0 ⟨0⟩
  , .publish "second" .required
  , .advance 1 ⟨0⟩
  , .worker .timeOut ⟨0⟩
  , .worker .work ⟨0⟩, .worker .work ⟨0⟩, .worker .work ⟨0⟩
  , .advance 1 ⟨0⟩
  , .worker .work ⟨0⟩, .worker .work ⟨0⟩, .worker .work ⟨0⟩ ]

/- The worker stops waiting again, and only then is to stop. -/
def recallMoves : List (Upkeep.Move String) :=
  [ .worker .work ⟨0⟩, .worker .timeOut ⟨0⟩, .worker .requestStop ⟨0⟩ ]

/- It makes the pass that it was about to make, and ends. -/
def lastMoves : List (Upkeep.Move String) :=
  List.replicate 9 (.worker .work ⟨0⟩)

/- A store that is away at times. -/
def crowdedScript : Scripted (List String) :=
  (Scripted.create []).cue
    [ .fail (.unavailable "away"), .fail (.unavailable "away") ]
    [ .fail (.unavailable "away") ]

/- The worker returns the counts of two passes. -/
theorem recalled_worker_accounted :
    let run := fun moves =>
      (create 1 crowdedScript).run (Scripted.store .list) ⟨1000⟩ moves
    let crowded := run crowdedMoves
    let recalled := run (crowdedMoves ++ recallMoves)
    let ended := run (crowdedMoves ++ recallMoves ++ lastMoves)
    let stats : FlushStats := ⟨2, 0, 1, 1, 0⟩
    crowded.worker.stage = .passing (.done ⟨1, 0, 0, 1, false⟩) ∧
      0 + 0 ≤ 1 ∧
      recalled.worker.AtRest ∧
      recalled.pushed.length = 0 + 0 + 1 + 1 ∧
      recalled.worker.stats.failed = recalled.returned.length ∧
      recalled.worker.stopRequests ≠ 0 ∧
      (recalled.run (Scripted.store .list) ⟨1000⟩ lastMoves).begun ≤
        recalled.begun + 1 ∧
      ended.worker.outcome? = some stats ∧
      ended.begun = ended.outcomes.length ∧
      stats = .ofOutcomes ended.outcomes := by
  intro run crowded recalled ended stats
  have hCrowded :=
    worker_accounted (Scripted.store .list) ⟨1000⟩ 1 crowdedScript
      crowdedMoves []
  have hRecalled :=
    worker_accounted (Scripted.store .list) ⟨1000⟩ 1 crowdedScript
      (crowdedMoves ++ recallMoves) lastMoves
  have hEnded :=
    worker_accounted (Scripted.store .list) ⟨1000⟩ 1 crowdedScript
      (crowdedMoves ++ recallMoves ++ lastMoves) []
  have hDone :
      crowded.worker.stage = .passing (.done ⟨1, 0, 0, 1, false⟩) := rfl
  have hRest : recalled.worker.AtRest := .starting rfl
  have hRequest : recalled.worker.stopRequests ≠ 0 := by
    decide
  have hOutcome : ended.worker.outcome? = some stats := rfl
  have hCounts := hRecalled.2.1 hRest
  have hStopped := hEnded.2.2.2.2.2 stats hOutcome
  exact
    ⟨hDone, hCrowded.2.2.1 _ hDone, hRest, hCounts.1, hCounts.2, hRequest,
      (hRecalled.2.2.2.2.1 hRequest).2.1, hOutcome, hStopped.2.2.2⟩

end Worklog

end Courier
