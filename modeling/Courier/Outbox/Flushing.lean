import Courier.Outbox.Publishing

/-
  This file defines the passes that retry the items waiting
  in an outbox, step by step, oldest item first.

  A pass takes all items out of the buffer and offers them to
  the store one after the other.  Items that the store
  refuses are dropped.  Where the store goes away the pass
  stops, and the item at hand and those behind it are put
  back ahead of whatever waits by then.

  Key definitions include:
    * `FlushResult`
    * `Flushing`
    * `Flushing.step`
    * `Flushing.run`
-/

namespace Courier

/- The outcome of a pass. -/
structure FlushResult where
  /- How many items were taken out of the buffer. -/
  attempted : Nat
  /- How many items the store accepted. -/
  published : Nat
  /- How many items the store refused. -/
  dropped : Nat
  /- How many items wait afterwards. -/
  remaining : Nat
  /- Whether the store could not be reached at all. -/
  skipped : Bool
  deriving DecidableEq, Repr

namespace FlushResult

/- The outcome of a pass that found nothing to do. -/
def idle : FlushResult where
  attempted := 0
  published := 0
  dropped := 0
  remaining := 0
  skipped := false

end FlushResult

/- How many items a pass took, and what became of them so far. -/
structure Tally where
  attempted : Nat
  published : Nat
  dropped : Nat
  deriving DecidableEq, Repr

/- Where a pass stands. -/
inductive Flushing (α : Type) where
  /- The pass is about to look for items. -/
  | starting
  /- The store is about to be probed. -/
  | probing
  /- The store was not reached; the buffer is about to be measured. -/
  | skipping
  /- All items are about to be taken. -/
  | taking
  /- The first of the items in hand is about to be offered. -/
  | offering (tally : Tally) (batch : List α)
  /- The items in hand are about to be put back. -/
  | requeueing (tally : Tally) (failed : List α)
  /- The buffer is about to be measured. -/
  | measuring (tally : Tally)
  /- The pass is over. -/
  | done (result : FlushResult)

namespace Flushing

variable {α σ : Type}

/- Take the next step. -/
def step
    (store : Store α σ)
    (limit : Duration)
    (now : Instant)
    (f : Flushing α)
    (s : Shared α σ) : Flushing α × Shared α σ :=
  match f with
  | starting =>
      if s.buffer.isEmpty then
        (done .idle, s)
      else
        (probing, s)
  | probing =>
      let (verdict, inner) := store.check limit s.store
      match verdict with
      | .ok () => (taking, { s with store := inner })
      | .error _ => (skipping, { s with store := inner })
  | skipping =>
      (done
        { FlushResult.idle with
          remaining := s.buffer.length
          skipped := true },
        s)
  | taking =>
      let (items, buffer) := s.buffer.takeAll
      (offering ⟨items.length, 0, 0⟩ items, { s with buffer := buffer })
  | offering tally [] => (requeueing tally [], s)
  | offering tally (item :: rest) =>
      let (answer, inner) := store.append now item s.store
      let s := { s with store := inner }
      match answer with
      | .ok _ =>
          (offering { tally with published := tally.published + 1 } rest, s)
      | .error fault =>
          if fault.isConnection then
            (requeueing tally (item :: rest), s)
          else
            (offering { tally with dropped := tally.dropped + 1 } rest, s)
  | requeueing tally failed =>
      (measuring tally,
        { s with buffer := (s.buffer.requeue failed).2 })
  | measuring tally =>
      (done
        { attempted := tally.attempted
          published := tally.published
          dropped := tally.dropped
          remaining := s.buffer.length
          skipped := false },
        s)
  | done result => (done result, s)

/- The number of steps of a pass over some items. -/
def mostSteps
    (n : Nat) : Nat :=
  n + 6

/- Take a number of steps. -/
def steps
    (store : Store α σ)
    (limit : Duration)
    (now : Instant) :
    Nat → Flushing α → Shared α σ → Flushing α × Shared α σ
  | 0, f, s => (f, s)
  | n + 1, f, s =>
      let (f, s) := f.step store limit now s
      steps store limit now n f s

/- The outcome of a pass; a pass in progress has none yet. -/
def result : Flushing α → FlushResult
  | done result => result
  | _ => .idle

/- Make a pass while no other call takes steps. -/
def run
    (store : Store α σ)
    (limit : Duration)
    (now : Instant)
    (s : Shared α σ) : FlushResult × Shared α σ :=
  let (f, s) :=
    steps store limit now (mostSteps s.buffer.length) starting s
  (f.result, s)

end Flushing

end Courier
