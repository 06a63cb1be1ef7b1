import Courier.Outbox.Flushing

/-
  This file defines the worker that makes passes over an
  outbox again and again.  Between two passes it waits until
  its interval is over or a request to stop is there; a pass
  that has begun is finished.

  Key definitions include:
    * `FlushStats`
    * `FlushStats.record`
    * `Worker`
    * `Worker.Action`
    * `Worker.step`
    * `Worker.runUntil`
-/

namespace Courier

/- What a worker counts over its passes. -/
structure FlushStats where
  /- How many passes were made. -/
  ticks : Nat
  /- How many passes did not reach the store. -/
  skipped : Nat
  published : Nat
  /- How many items were put back. -/
  failed : Nat
  dropped : Nat
  deriving DecidableEq, Repr

namespace FlushStats

/- The counts before the first pass. -/
def zero : FlushStats where
  ticks := 0
  skipped := 0
  published := 0
  failed := 0
  dropped := 0

/- Count a pass that is about to begin. -/
def tick
    (stats : FlushStats) : FlushStats :=
  { stats with ticks := stats.ticks + 1 }

/- Count the outcome of a pass. -/
def record
    (stats : FlushStats)
    (r : FlushResult) : FlushStats :=
  { stats with
    skipped := stats.skipped + if r.skipped then 1 else 0
    published := stats.published + r.published
    dropped := stats.dropped + r.dropped
    failed := stats.failed + (r.attempted - r.published - r.dropped) }

end FlushStats

------------------------------------------------------------
-- The worker step by step
------------------------------------------------------------

/- Where a worker stands. -/
inductive Worker.Stage (α : Type) where
  /- It waits for its interval to end or a request to stop. -/
  | waiting
  /- It is making a pass. -/
  | passing (pass : Flushing α)
  /- It has ended. -/
  | stopped

/- A worker, its counts, and the requests to stop it. -/
structure Worker (α : Type) where
  stage : Worker.Stage α
  stats : FlushStats
  stopRequests : Nat

namespace Worker

variable {α σ : Type}

/- A worker that has made no pass. -/
def start : Worker α where
  stage := .waiting
  stats := .zero
  stopRequests := 0

/- What can happen next to a worker. -/
inductive Action where
  /- A request to stop is queued. -/
  | requestStop
  /- The interval ends while no request to stop is queued. -/
  | timeOut
  /- The worker takes its next step. -/
  | work
  deriving DecidableEq, Repr

/- Let something happen to a worker. -/
def step
    (store : Store α σ)
    (limit : Duration)
    (now : Instant)
    (action : Action)
    (w : Worker α)
    (s : Shared α σ) : Worker α × Shared α σ :=
  match action with
  | .requestStop =>
      ({ w with stopRequests := w.stopRequests + 1 }, s)
  | .timeOut =>
      match w.stage with
      | .waiting =>
          if w.stopRequests = 0 then
            ({ w with stage := .passing .starting, stats := w.stats.tick }, s)
          else
            (w, s)
      | _ => (w, s)
  | .work =>
      match w.stage with
      | .waiting =>
          if w.stopRequests = 0 then
            (w, s)
          else
            ({ w with stage := .stopped }, s)
      | .passing (.done result) =>
          ({ w with stage := .waiting, stats := w.stats.record result }, s)
      | .passing pass =>
          let (pass, s) := pass.step store limit now s
          ({ w with stage := .passing pass }, s)
      | .stopped => (w, s)

------------------------------------------------------------
-- Running a worker on its own
------------------------------------------------------------

/-
  Make passes, while no other call takes steps, until a
  condition on the shared state holds; at most as many as the
  fuel allows.
-/
def runUntil
    (store : Store α σ)
    (limit : Duration)
    (now : Instant)
    (settled : Shared α σ → Bool) :
    Nat → FlushStats → Shared α σ → FlushStats × Shared α σ
  | 0, stats, s => (stats, s)
  | fuel + 1, stats, s =>
      if settled s then
        (stats, s)
      else
        let (result, s) := Flushing.run store limit now s
        runUntil store limit now settled fuel
          (stats.tick.record result) s

end Worker

end Courier
