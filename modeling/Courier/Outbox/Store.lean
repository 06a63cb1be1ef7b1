import Courier.Instant
import Courier.Outbox.Fault

/-
  This file defines stores, append-only logs of items, and
  the monitor that probes whether a store can be reached.

  Key definitions include:
    * `Probe`
    * `Store`
    * `Probe.verdict`
    * `Store.check`
-/

namespace Courier

------------------------------------------------------------
-- Probes
------------------------------------------------------------

/- The answer to a probe, and how long it took. -/
structure Probe where
  result : Except StoreFault Unit
  elapsed : Duration

namespace Probe

/-
  The probe of a store that answers after a wait; an answer
  takes a nanosecond longer than the wait before it.
-/
def after
    (wait : Duration)
    (result : Except StoreFault Unit) : Probe where
  result := result
  elapsed := ⟨wait.nanoseconds + 1⟩

/- The probe of a store that answers at once. -/
def immediate
    (result : Except StoreFault Unit) : Probe :=
  after .zero result

/-
  What a probe says about a store: a fault, or success if it
  did not come too late.
-/
def verdict
    (probe : Probe)
    (limit : Duration) : Except StoreFault Unit :=
  match probe.result with
  | .error fault => .error fault
  | .ok () =>
      if probe.elapsed.exceeds limit then
        .error (.timeout limit)
      else
        .ok ()

end Probe

------------------------------------------------------------
-- Stores
------------------------------------------------------------

/-
  A store of items, with states of a given type.  An append
  answers with the id of the new entry.
-/
structure Store (α σ : Type) where
  /- Probe the store, waiting no longer than allowed. -/
  ping : Duration → σ → Probe × σ
  /- Append an item. -/
  append : Instant → α → σ → Except StoreFault String × σ

/- Probe a store, and count an answer after the limit as a fault. -/
def Store.check
    {α σ : Type}
    (store : Store α σ)
    (limit : Duration)
    (s : σ) : Except StoreFault Unit × σ :=
  let (probe, s) := store.ping limit s
  (probe.verdict limit, s)

end Courier
