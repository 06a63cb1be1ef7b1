import Courier.Outbox.Outbox

/-
  This file defines services, and the recorder that stands in
  front of a service and publishes an event for each call
  that succeeds.  Calls that fail are passed on untouched.

  Key definitions include:
    * `Service`
    * `Recording`
    * `Recorded`
    * `Recording.wrap`
    * `Recorded.shutdown`
-/

namespace Courier

------------------------------------------------------------
-- Services
------------------------------------------------------------

/-
  A service answers requests; the type of an answer depends
  on its request.
-/
structure Service
    (Request : Type)
    (Answer : Request → Type)
    (Fault σ : Type) where
  call :
    Instant →
    (request : Request) →
    σ →
    Except Fault (Answer request) × σ

/- How the calls of a service are recorded. -/
structure Recording
    (Request : Type)
    (Answer : Request → Type)
    (Fault : Type) where
  /- The event of a call that was answered. -/
  event : (request : Request) → Answer request → Event
  /- Whether a caller hears that the event was refused. -/
  policy : Request → EmitPolicy
  /- The fault of the outbox as a fault of the service. -/
  fault : OutboxFault → Fault

------------------------------------------------------------
-- Recorded services
------------------------------------------------------------

/- The state of a service with a recorder in front of it. -/
structure Recorded (σ τ : Type) where
  inner : σ
  outbox : Outbox τ
  /- Whether a worker retries what waits in the outbox. -/
  flushing : Bool

namespace Recording

variable {Request : Type}
variable {Answer : Request → Type}
variable {Fault σ τ : Type}

/- Put a recorder in front of a service. -/
def wrap
    (recording : Recording Request Answer Fault)
    (store : Store Record τ)
    (service : Service Request Answer Fault σ) :
    Service Request Answer Fault (Recorded σ τ) where
  call := fun now request s =>
    let (answer, inner) := service.call now request s.inner
    match answer with
    | .error fault => (.error fault, { s with inner := inner })
    | .ok value =>
        let (emitted, outbox) :=
          s.outbox.publish store now
            (recording.event request value) (recording.policy request)
        let s := { s with inner := inner, outbox := outbox }
        match emitted with
        | .ok () => (.ok value, s)
        | .error fault => (.error (recording.fault fault), s)

end Recording

namespace Recorded

variable {σ τ : Type}

/-
  Take the recorder away.  Its worker, if there is one, first
  makes passes until a condition on the store holds.
-/
def shutdown
    (store : Store Record τ)
    (now : Instant)
    (settled : τ → Bool)
    (fuel : Nat)
    (s : Recorded σ τ) : Option FlushStats × Outbox τ :=
  if s.flushing then
    let (stats, outbox) := s.outbox.settle store now settled fuel
    (some stats, outbox)
  else
    (none, s.outbox)

end Recorded

end Courier
