import Courier.Outbox.Publishing

/-
  This file says what a caller hears of an item that it
  publishes while no other call takes steps.  A store that
  cannot be reached is no fault of the caller: the only fault
  that it may hear of is that of a store which was reached and
  refused the item.

  Key definitions include:
    * `Store.Refuses`, `Store.Unreached`

  Main statements:
    * `Publishing.run_of_refuses`
    * `Publishing.run_of_not_refuses`
    * `Store.Unreached.not_refuses`
-/

namespace Courier

variable {α σ : Type}

------------------------------------------------------------
-- Outcomes of a store
------------------------------------------------------------

/- A store answers a probe in time, and then refuses an item. -/
structure Store.Refuses
    (store : Store α σ)
    (limit : Duration)
    (now : Instant)
    (item : α)
    (s : σ)
    (fault : StoreFault) : Prop where
  answered : (store.ping limit s).1.result = .ok ()
  inTime : (store.ping limit s).1.elapsed.exceeds limit = false
  refused :
    (store.append now item (store.ping limit s).2).1 = .error fault
  reached : fault.isConnection = false

/- A store is not reached by a probe, or not by the append behind it. -/
inductive Store.Unreached
    (store : Store α σ)
    (limit : Duration)
    (now : Instant)
    (item : α)
    (s : σ) : Prop where
  /- The probe fails, with whatever fault. -/
  | failed
      (fault : StoreFault)
      (hResult : (store.ping limit s).1.result = .error fault)
  /- The probe is answered too late. -/
  | late
      (hElapsed : (store.ping limit s).1.elapsed.exceeds limit = true)
  /- The store goes away before the append. -/
  | dropped
      (fault : StoreFault)
      (hAppend :
        (store.append now item (store.ping limit s).2).1 =
          .error fault)
      (hConnection : fault.isConnection = true)

/- A store that is not reached refuses nothing. -/
theorem Store.Unreached.not_refuses
    {store : Store α σ}
    {limit : Duration}
    {now : Instant}
    {item : α}
    {s : σ}
    (hUnreached : store.Unreached limit now item s)
    (fault : StoreFault) :
    ¬ store.Refuses limit now item s fault := by
  intro hRefuses
  cases hUnreached with
  | failed other hResult =>
      rw [hRefuses.answered] at hResult
      exact absurd hResult nofun
  | late hElapsed =>
      rw [hRefuses.inTime] at hElapsed
      exact absurd hElapsed nofun
  | dropped other hAppend hConnection =>
      rw [hRefuses.refused] at hAppend
      cases hAppend
      rw [hRefuses.reached] at hConnection
      exact absurd hConnection nofun

/- A probe is good if it succeeded, and in time. -/
theorem Probe.verdict_eq_ok_iff
    (probe : Probe)
    (limit : Duration) :
    probe.verdict limit = .ok () ↔
      probe.result = .ok () ∧ probe.elapsed.exceeds limit = false := by
  unfold verdict
  cases probe.result with
  | error fault => simp
  | ok value =>
      cases probe.elapsed.exceeds limit with
      | true => simp
      | false => simp

------------------------------------------------------------
-- What a caller hears
------------------------------------------------------------

namespace Publishing

variable {store : Store α σ}
variable {limit : Duration}
variable {now : Instant}
variable {item : α}
variable {s : Shared α σ}

/- The caller hears of a refusal as its policy says. -/
theorem run_of_refuses
    {fault : StoreFault}
    (hRefuses : store.Refuses limit now item s.store fault)
    (policy : EmitPolicy) :
    (run store limit now item policy s).1 = refusal policy fault := by
  have hVerdict :=
    (Probe.verdict_eq_ok_iff (store.ping limit s.store).1 limit).mpr
      ⟨hRefuses.answered, hRefuses.inTime⟩
  simp [run, mostSteps, steps, step, Store.check, hVerdict,
    hRefuses.refused, hRefuses.reached, result]

/- The caller hears of no fault if the item was not refused. -/
theorem run_of_not_refuses
    (hNone : ∀ fault, ¬ store.Refuses limit now item s.store fault)
    (policy : EmitPolicy) :
    (run store limit now item policy s).1 = .ok () := by
  cases hVerdict : (store.ping limit s.store).1.verdict limit with
  | error fault =>
      simp [run, mostSteps, steps, step, Store.check, hVerdict, result]
  | ok value =>
      have hProbe :=
        (Probe.verdict_eq_ok_iff (store.ping limit s.store).1 limit).mp
          hVerdict
      cases hAppend :
          (store.append now item (store.ping limit s.store).2).1 with
      | ok id =>
          simp [run, mostSteps, steps, step, Store.check, hVerdict,
            hAppend, result]
      | error fault =>
          cases hConnection : fault.isConnection with
          | true =>
              simp [run, mostSteps, steps, step, Store.check, hVerdict,
                hAppend, hConnection, result]
          | false =>
              exact absurd ⟨hProbe.1, hProbe.2, hAppend, hConnection⟩
                (hNone fault)

end Publishing

end Courier
