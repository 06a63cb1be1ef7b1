import Courier.Proofs.Outbox.Conservation
import Courier.Service.Recorder

/-
  This file keeps the minutes of a service behind a recorder:
  the calls so far with what came of them, and a ledger of the
  outbox that their records are handed to.  The calls do not
  overlap.  Passes over the outbox may begin and take their
  steps at any time, also while a record is being published.

  Whatever the service and the store do, one record is handed
  in for each call that was answered, in the order of the
  calls, and none for a call that failed.

  Key definitions include:
    * `Recorder`
    * `Minutes`
    * `Minutes.Move`
    * `Minutes.step`, `Minutes.run`
    * `Minutes.Kept`

  Main statements:
    * `Minutes.kept_run`
    * `Minutes.Kept.exists_onlyIn`
-/

namespace Courier

------------------------------------------------------------
-- Calls and their minutes
------------------------------------------------------------

/- A recorder, the service behind it, and the store of its outbox. -/
structure Recorder
    (Request : Type)
    (Answer : Request → Type)
    (Fault σ τ : Type) where
  recording : Recording Request Answer Fault
  service : Service Request Answer Fault σ
  store : Store Record τ
  settings : OutboxSettings

/- A call on a service, and what came of it. -/
structure Taken
    (Request : Type)
    (Answer : Request → Type)
    (Fault : Type) where
  now : Instant
  request : Request
  result : Except Fault (Answer request)

/- A call that was answered. -/
structure Answered
    (Request : Type)
    (Answer : Request → Type) where
  now : Instant
  request : Request
  answer : Answer request

/- A service behind a recorder, and what happened so far. -/
structure Minutes
    (Request : Type)
    (Answer : Request → Type)
    (Fault σ τ : Type) where
  inner : σ
  /- The outbox, and where its records went. -/
  ledger : Ledger Record τ
  /- The calls so far, oldest first. -/
  calls : List (Taken Request Answer Fault)

section Recorders

variable {Request : Type}
variable {Answer : Request → Type}
variable {Fault σ τ : Type}

/- A call, if it was answered. -/
def Taken.answered?
    (call : Taken Request Answer Fault) : Option (Answered Request Answer) :=
  match call.result with
  | .ok answer => some ⟨call.now, call.request, answer⟩
  | .error _ => none

/- What a call that publishes an item returned, if it has. -/
def Publishing.outcome?
    {α : Type} : Publishing α → Option (Except OutboxFault Unit)
  | done result => some result
  | _ => none

/- The record of a call that was answered. -/
def Recorder.record
    (recorder : Recorder Request Answer Fault σ τ)
    (call : Answered Request Answer) : Record :=
  .ofEvent call.now recorder.settings.stream
    recorder.settings.streamLength
    (recorder.recording.event call.request call.answer)

namespace Minutes

/-
  What happens next.  Passes over the outbox may begin and take
  their steps at any time.
-/
inductive Move (Request : Type) where
  /- The service is called. -/
  | call (now : Instant) (request : Request)
  /- The publishing of the last record takes its next step. -/
  | advance (now : Instant)
  /- A pass over the outbox begins. -/
  | flush
  /- The pass with a number takes its next step. -/
  | retry (pass : Nat) (now : Instant)

/- A service with an outbox that nobody has used yet. -/
def create
    (settings : OutboxSettings)
    (s : σ)
    (t : τ) : Minutes Request Answer Fault σ τ where
  inner := s
  ledger := .create settings.bufferCapacity.toNat t
  calls := []

/- The calls that were answered, oldest first. -/
def answered
    (m : Minutes Request Answer Fault σ τ) :
    List (Answered Request Answer) :=
  m.calls.filterMap Taken.answered?

/- The records that were handed to the outbox, oldest first. -/
def handed
    (m : Minutes Request Answer Fault σ τ) : List Record :=
  m.ledger.issued.map (·.item)

/- The number of the record that was handed in last. -/
def last
    (m : Minutes Request Answer Fault σ τ) : Nat :=
  m.ledger.traffic.publishings.length - 1

/- Whether a call has not returned yet. -/
def busy
    (m : Minutes Request Answer Fault σ τ) : Bool :=
  m.ledger.traffic.publishings[m.last]?.any (·.outcome?.isNone)

/- Make a move on the outbox. -/
def onOutbox
    (recorder : Recorder Request Answer Fault σ τ)
    (move : Traffic.Move Record)
    (m : Minutes Request Answer Fault σ τ) :
    Minutes Request Answer Fault σ τ :=
  { m with
    ledger :=
      m.ledger.step recorder.store recorder.settings.probeTimeout move }

/- Note a call, and hand its record in if it was answered. -/
def take
    (recorder : Recorder Request Answer Fault σ τ)
    (now : Instant)
    (request : Request)
    (m : Minutes Request Answer Fault σ τ) :
    Minutes Request Answer Fault σ τ :=
  let (result, inner) := recorder.service.call now request m.inner
  let m :=
    { m with inner, calls := m.calls ++ [⟨now, request, result⟩] }
  match result with
  | .error _ => m
  | .ok answer =>
      m.onOutbox recorder
        (.publish (recorder.record ⟨now, request, answer⟩)
          (recorder.recording.policy request))

/- Make a move.  Calls wait for each other to return. -/
def step
    (recorder : Recorder Request Answer Fault σ τ)
    (move : Move Request)
    (m : Minutes Request Answer Fault σ τ) :
    Minutes Request Answer Fault σ τ :=
  match move with
  | .call now request =>
      if m.busy then m else m.take recorder now request
  | .advance now => m.onOutbox recorder (.advance m.last now)
  | .flush => m.onOutbox recorder .flush
  | .retry n now => m.onOutbox recorder (.retry n now)

/- Make some moves, one after the other. -/
def run
    (recorder : Recorder Request Answer Fault σ τ) :
    List (Move Request) → Minutes Request Answer Fault σ τ →
      Minutes Request Answer Fault σ τ
  | [], m => m
  | move :: rest, m => run recorder rest (step recorder move m)

/- A run is one of its first moves, and then of the others. -/
theorem run_append
    (recorder : Recorder Request Answer Fault σ τ)
    (moves later : List (Move Request))
    (m : Minutes Request Answer Fault σ τ) :
    m.run recorder (moves ++ later) =
      (m.run recorder moves).run recorder later := by
  induction moves generalizing m with
  | nil => rfl
  | cons move rest ih => exact ih (m.step recorder move)

/- A call that fails hands nothing in. -/
theorem take_of_error
    {recorder : Recorder Request Answer Fault σ τ}
    {now : Instant}
    {request : Request}
    {m : Minutes Request Answer Fault σ τ}
    {fault : Fault}
    (hCall :
      (recorder.service.call now request m.inner).1 = .error fault) :
    m.take recorder now request =
      { m with
        inner := (recorder.service.call now request m.inner).2
        calls := m.calls ++ [⟨now, request, .error fault⟩] } := by
  simp only [take, hCall]

/- A call that is answered hands its record in. -/
theorem take_of_ok
    {recorder : Recorder Request Answer Fault σ τ}
    {now : Instant}
    {request : Request}
    {m : Minutes Request Answer Fault σ τ}
    {answer : Answer request}
    (hCall :
      (recorder.service.call now request m.inner).1 = .ok answer) :
    m.take recorder now request =
      { inner := (recorder.service.call now request m.inner).2
        ledger :=
          m.ledger.step recorder.store recorder.settings.probeTimeout
            (.publish (recorder.record ⟨now, request, answer⟩)
              (recorder.recording.policy request))
        calls := m.calls ++ [⟨now, request, .ok answer⟩] } := by
  simp only [take, hCall, onOutbox]

------------------------------------------------------------
-- What the minutes keep
------------------------------------------------------------

/-
  Records are handed in one for each call that was answered, and
  no call but the last has yet to return.
-/
structure Kept
    (recorder : Recorder Request Answer Fault σ τ)
    (m : Minutes Request Answer Fault σ τ) : Prop where
  balanced : m.ledger.Balanced
  recorded : m.handed = m.answered.map recorder.record
  returned :
    ∀ (n : Nat) (p : Publishing (Ticket Record)),
      m.ledger.traffic.publishings[n]? = some p →
        n + 1 < m.ledger.traffic.publishings.length →
          p.outcome? ≠ none

/- They are kept of a service that was not called yet. -/
theorem Kept.create
    (recorder : Recorder Request Answer Fault σ τ)
    (s : σ)
    (t : τ) :
    (Minutes.create recorder.settings s t :
      Minutes Request Answer Fault σ τ).Kept recorder where
  balanced := Ledger.balanced_create _ _
  recorded := rfl
  returned := by
    simp [Minutes.create, Ledger.create, Traffic.create]

section Moves

variable {recorder : Recorder Request Answer Fault σ τ}
variable {m : Minutes Request Answer Fault σ τ}

/- A move on the outbox hands in what it brings. -/
theorem handed_onOutbox
    (move : Traffic.Move Record) :
    (m.onOutbox recorder move).handed = m.handed ++ move.items := by
  have hIssued :=
    Ledger.issued_run recorder.store recorder.settings.probeTimeout
      [move] m.ledger
  rw [List.flatMap_cons, List.flatMap_nil, List.append_nil] at hIssued
  exact hIssued

/- While no call is under way, all have returned. -/
theorem Kept.all_returned
    (hKept : m.Kept recorder)
    (hIdle : m.busy = false)
    {n : Nat}
    {p : Publishing (Ticket Record)}
    (hCall : m.ledger.traffic.publishings[n]? = some p) :
    p.outcome? ≠ none := by
  by_cases hEarlier : n + 1 < m.ledger.traffic.publishings.length
  · exact hKept.returned n p hCall hEarlier
  · have hBound := (List.getElem?_eq_some_iff.mp hCall).1
    have hLast : m.last = n := by
      unfold last
      omega
    apply Option.isSome_iff_ne_none.mp
    simpa [busy, hLast, hCall] using hIdle

/- The minutes are kept when a call is taken down. -/
theorem Kept.take
    (hKept : m.Kept recorder)
    (hIdle : m.busy = false)
    (now : Instant)
    (request : Request) :
    (m.take recorder now request).Kept recorder := by
  cases hCall : (recorder.service.call now request m.inner).1 with
  | error fault =>
      rw [take_of_error hCall]
      refine ⟨hKept.balanced, ?_, hKept.returned⟩
      rw [answered, List.filterMap_append, List.map_append]
      exact hKept.recorded.trans (List.append_nil _).symm
  | ok answer =>
      rw [take_of_ok hCall]
      refine ⟨hKept.balanced.step _, ?_, ?_⟩
      · rw [answered, List.filterMap_append, List.map_append]
        exact
          (handed_onOutbox _).trans
            (congrArg (· ++ [recorder.record ⟨now, request, answer⟩])
              hKept.recorded)
      · intro n p hAt hEarlier
        rw [Ledger.step_publish] at hAt hEarlier
        simp only [List.length_append, List.length_singleton] at hEarlier
        rw [List.getElem?_append_left (by omega)] at hAt
        exact hKept.all_returned hIdle hAt

/- They are kept when something else happens on the outbox. -/
theorem Kept.onOutbox
    (hKept : m.Kept recorder)
    {move : Traffic.Move Record}
    (hItems : move.items = [])
    (hReturned :
      ∀ (n : Nat) (p : Publishing (Ticket Record)),
        (m.onOutbox recorder move).ledger.traffic.publishings[n]? =
            some p →
          n + 1 <
              (m.onOutbox recorder move).ledger.traffic.publishings.length →
            p.outcome? ≠ none) :
    (m.onOutbox recorder move).Kept recorder := by
  refine ⟨hKept.balanced.step _, ?_, hReturned⟩
  rw [handed_onOutbox, hItems, List.append_nil]
  exact hKept.recorded

/- They are kept in any move. -/
theorem Kept.step
    (hKept : m.Kept recorder)
    (move : Move Request) :
    (m.step recorder move).Kept recorder := by
  cases move with
  | call now request =>
      simp only [Minutes.step]
      cases hBusy : m.busy with
      | true => exact hKept
      | false => exact hKept.take hBusy now request
  | advance now =>
      apply hKept.onOutbox rfl
      cases hCall : m.ledger.traffic.publishings[m.last]? with
      | none =>
          rw [Minutes.onOutbox, Ledger.step_advance_of_none hCall]
          exact hKept.returned
      | some p =>
          -- Only the last call steps; those before it stay as they are.
          intro n p' hAt hEarlier
          rw [Minutes.onOutbox, Ledger.step_advance hCall] at hAt hEarlier
          simp only [List.length_set] at hEarlier
          have hOther : m.last ≠ n := by
            unfold last
            omega
          rw [List.getElem?_set_ne hOther] at hAt
          exact hKept.returned n p' hAt hEarlier
  | flush =>
      apply hKept.onOutbox rfl
      rw [Minutes.onOutbox, Ledger.step_flush]
      exact hKept.returned
  | retry n now =>
      apply hKept.onOutbox rfl
      cases hPass : m.ledger.traffic.passes[n]? with
      | none =>
          rw [Minutes.onOutbox, Ledger.step_retry_of_none hPass]
          exact hKept.returned
      | some f =>
          rw [Minutes.onOutbox, Ledger.step_retry hPass]
          exact hKept.returned

/- They are kept in any run. -/
theorem kept_run
    (recorder : Recorder Request Answer Fault σ τ)
    (moves : List (Move Request))
    (hKept : m.Kept recorder) :
    (m.run recorder moves).Kept recorder := by
  induction moves generalizing m with
  | nil => exact hKept
  | cons move rest ih => exact ih (hKept.step move)

/- As many records were handed in as calls began to publish. -/
theorem Kept.length_publishings
    (hKept : m.Kept recorder) :
    m.ledger.traffic.publishings.length = m.answered.length := by
  have hNumbered := congrArg List.length hKept.balanced.numbered
  have hRecorded := congrArg List.length hKept.recorded
  simp only [handed, List.length_map, List.length_range] at hNumbered hRecorded
  exact hNumbered.symm.trans hRecorded

/- The record of a call that returned is in one place. -/
theorem Kept.exists_onlyIn
    (hKept : m.Kept recorder)
    {call : Nat}
    (hAnswered : call < m.answered.length)
    (hReturned : call + 1 < m.answered.length ∨ m.busy = false) :
    ∃ place, m.ledger.OnlyIn place call := by
  rw [← hKept.length_publishings] at hAnswered hReturned
  have hCall := List.getElem?_eq_getElem hAnswered
  have hOutcome :
      m.ledger.traffic.publishings[call].outcome? ≠ none := by
    rcases hReturned with hEarlier | hIdle
    · exact hKept.returned call _ hCall hEarlier
    · exact hKept.all_returned hIdle hCall
  cases hDone : m.ledger.traffic.publishings[call] with
  | done result =>
      rw [hDone] at hCall
      exact hKept.balanced.exists_onlyIn hCall
  | _ =>
      rw [hDone] at hOutcome
      exact absurd rfl hOutcome

end Moves

end Minutes

end Recorders

end Courier
