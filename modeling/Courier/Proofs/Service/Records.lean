import Courier.Outbox.ScriptedStore
import Courier.Proofs.Service.Minutes
import Courier.Proofs.Service.Plan
import Courier.Proofs.Service.Transparency

/-
  A recorder hands its outbox one record for each call that
  the service behind it answers, and none for a call that
  fails.  The record is made of this call and its answer
  alone, as planned for its operation.  Whatever the store and
  the passes over the outbox do in between, it ends up in one
  place.

  The calls of a recorded service, one after the other, are
  runs of its minutes in which nothing else happens.

  Key definitions include:
    * `Recorder.callAll`
    * `Minutes.atOnce`, `Minutes.forget`
    * `Recorder.RecordsOnce`

  Main statements:
    * `Minutes.forget_callAll`
    * `Recorder.recordsOnce`
    * `services_recorded_once`
-/

namespace Courier

section Recorders

variable {Request : Type}
variable {Answer : Request → Type}
variable {Fault σ τ : Type}

------------------------------------------------------------
-- Calls that are made in one go
------------------------------------------------------------

/- Steps of the call that published last. -/
theorem Traffic.run_advances
    {α : Type}
    (store : Store α τ)
    (limit : Duration)
    (now : Instant)
    (count : Nat)
    {t : Traffic α τ}
    {earlier : List (Publishing α)}
    {p : Publishing α}
    (hLast : t.publishings = earlier ++ [p]) :
    t.run store limit
        (List.replicate count (.advance earlier.length now)) =
      { t with
        shared := (p.steps store limit now count t.shared).2
        publishings :=
          earlier ++ [(p.steps store limit now count t.shared).1] } := by
  induction count generalizing t p with
  | zero =>
      rw [List.replicate_zero, run, Publishing.steps, ← hLast]
  | succ count ih =>
      have hStep :
          t.step store limit (.advance earlier.length now) =
            { t with
              shared := (p.step store limit now t.shared).2
              publishings :=
                earlier ++ [(p.step store limit now t.shared).1] } := by
        simp [step, hLast]
      rw [List.replicate_succ, run, hStep, ih rfl]
      rfl

/- Without tickets, a call that hands an item in and takes steps. -/
theorem Ledger.forget_publish_steps
    {α : Type}
    (store : Store α τ)
    (limit : Duration)
    (now : Instant)
    (item : α)
    (policy : EmitPolicy)
    (count : Nat)
    (l : Ledger α τ) :
    ((l.step store limit (.publish item policy)).run store limit
        (List.replicate count
          (.advance l.traffic.publishings.length now))).forget =
      { l.forget with
        shared :=
          ((Publishing.probing item policy).steps store limit now count
            l.forget.shared).2
        publishings :=
          l.forget.publishings ++
            [((Publishing.probing item policy).steps store limit now count
              l.forget.shared).1] } := by
  have hLength :
      l.traffic.publishings.length = l.forget.publishings.length :=
    (List.length_map _).symm
  rw [forget_run, forget_step, hLength]
  exact
    Traffic.run_advances store limit now count
      (t := l.forget.step store limit (.publish item policy)) rfl

/- A call that publishes has returned once it took all its steps. -/
theorem Publishing.outcome?_steps
    {α : Type}
    (store : Store α τ)
    (limit : Duration)
    (now : Instant)
    (item : α)
    (policy : EmitPolicy)
    (s : Shared α τ) :
    ((probing item policy).steps store limit now
      mostSteps s).1.outcome?.isSome = true := by
  rcases hProbe : store.check limit s.store with ⟨verdict, probed⟩
  cases verdict with
  | error fault => simp [mostSteps, steps, step, hProbe, outcome?]
  | ok value =>
      rcases hAppend : store.append now item probed with ⟨answer, inner⟩
      cases answer with
      | ok id => simp [mostSteps, steps, step, hProbe, hAppend, outcome?]
      | error fault =>
          cases hConnection : fault.isConnection with
          | _ =>
              simp [mostSteps, steps, step, hProbe, hAppend,
                hConnection, outcome?]

/- What becomes of a recorded service whose call was answered. -/
theorem Recording.wrap_snd_of_ok
    {recording : Recording Request Answer Fault}
    {store : Store Record τ}
    {service : Service Request Answer Fault σ}
    {now : Instant}
    {request : Request}
    {s : Recorded σ τ}
    {answer : Answer request}
    (hCall : (service.call now request s.inner).1 = .ok answer) :
    ((recording.wrap store service).call now request s).2 =
      { s with
        inner := (service.call now request s.inner).2
        outbox :=
          (s.outbox.publish store now (recording.event request answer)
            (recording.policy request)).2 } := by
  simp only [wrap, hCall]
  split <;> rfl

namespace Recorder

/- Make some calls, one after the other, each in one go. -/
def callAll
    (recorder : Recorder Request Answer Fault σ τ) :
    List (Instant × Request) → Recorded σ τ → Recorded σ τ
  | [], s => s
  | (now, request) :: rest, s =>
      callAll recorder rest
        ((recorder.recording.wrap recorder.store recorder.service).call
          now request s).2

end Recorder

namespace Minutes

/- The moves of a call during which nothing else happens. -/
def atOnce
    (now : Instant)
    (request : Request) : List (Move Request) :=
  .call now request :: List.replicate Publishing.mostSteps (.advance now)

/- The state of a recorded service of which no minutes are kept. -/
def forget
    (settings : OutboxSettings)
    (flushing : Bool)
    (m : Minutes Request Answer Fault σ τ) : Recorded σ τ where
  inner := m.inner
  outbox :=
    { stream := settings.stream
      streamLength := settings.streamLength
      probeTimeout := settings.probeTimeout
      shared := m.ledger.forget.shared }
  flushing := flushing

section AtOnce

variable {recorder : Recorder Request Answer Fault σ τ}
variable {m : Minutes Request Answer Fault σ τ}

/- Tickets do not matter to whether a call has returned. -/
theorem busy_eq_forget
    (m : Minutes Request Answer Fault σ τ) :
    m.busy =
      m.ledger.forget.publishings.getLast?.any (·.outcome?.isNone) := by
  rw [busy, last, Ledger.forget, List.getLast?_eq_getElem?,
    List.length_map, List.getElem?_map]
  cases m.ledger.traffic.publishings[
      m.ledger.traffic.publishings.length - 1]? with
  | none => rfl
  | some p =>
      cases p with
      | _ => rfl

/- A step of a call does not begin another. -/
theorem last_step_advance
    (recorder : Recorder Request Answer Fault σ τ)
    (m : Minutes Request Answer Fault σ τ)
    (now : Instant) :
    (m.step recorder (.advance now)).last = m.last := by
  cases hCall : m.ledger.traffic.publishings[m.last]? with
  | none => rw [step, onOutbox, Ledger.step_advance_of_none hCall]
  | some p =>
      rw [step, onOutbox, Ledger.step_advance hCall, last, List.length_set]
      rfl

/- Steps of a call change the outbox only. -/
theorem run_advances
    (recorder : Recorder Request Answer Fault σ τ)
    (m : Minutes Request Answer Fault σ τ)
    (now : Instant)
    (count : Nat) :
    m.run recorder (List.replicate count (.advance now)) =
      { m with
        ledger :=
          m.ledger.run recorder.store recorder.settings.probeTimeout
            (List.replicate count (.advance m.last now)) } := by
  induction count generalizing m with
  | zero => rfl
  | succ count ih =>
      rw [List.replicate_succ, run, ih, last_step_advance,
        List.replicate_succ]
      rfl

/- No call takes a step if none is under way. -/
theorem step_advance_of_idle
    (hIdle : m.busy = false)
    (now : Instant) :
    m.step recorder (.advance now) = m := by
  cases hCall : m.ledger.traffic.publishings[m.last]? with
  | none => rw [step, onOutbox, Ledger.step_advance_of_none hCall]
  | some p =>
      cases p with
      | done result =>
          rcases List.getElem?_eq_some_iff.mp hCall with ⟨hBound, hSame⟩
          have hNone :
              (Publishing.done result).evicting m.ledger.shared = [] := rfl
          rw [step, onOutbox, Ledger.step_advance hCall, hNone,
            List.append_nil, Publishing.step, ← hSame,
            List.set_getElem_self]
          rfl
      | _ => simp [busy, hCall, Publishing.outcome?] at hIdle

/- Nor does it take several. -/
theorem run_advances_of_idle
    (hIdle : m.busy = false)
    (now : Instant)
    (count : Nat) :
    m.run recorder (List.replicate count (.advance now)) = m := by
  induction count with
  | zero => rfl
  | succ count ih =>
      rw [List.replicate_succ, run, step_advance_of_idle hIdle, ih]

/-
  A call during which nothing else happens does what the call
  of the recorded service does, and has returned then.
-/
theorem forget_atOnce
    (hIdle : m.busy = false)
    (now : Instant)
    (request : Request)
    (flushing : Bool) :
    ((recorder.recording.wrap recorder.store recorder.service).call now
          request (m.forget recorder.settings flushing)).2 =
        (m.run recorder (atOnce now request)).forget recorder.settings
          flushing ∧
      (m.run recorder (atOnce now request)).busy = false := by
  have hCalled :
      m.run recorder (atOnce now request) =
        (m.take recorder now request).run recorder
          (List.replicate Publishing.mostSteps (.advance now)) := by
    rw [atOnce, run, step, hIdle]
    rfl
  rw [hCalled]
  cases hCall : (recorder.service.call now request m.inner).1 with
  | error fault =>
      -- Nothing is published, so the steps behind the call do nothing.
      have hStillIdle : (m.take recorder now request).busy = false := by
        rw [take_of_error hCall]
        exact hIdle
      rw [run_advances_of_idle hStillIdle]
      refine ⟨?_, hStillIdle⟩
      rw [Recording.wrap_of_error hCall, take_of_error hCall]
      rfl
  | ok answer =>
      have hLast :
          (m.take recorder now request).last =
            m.ledger.traffic.publishings.length := by
        rw [take_of_ok hCall, last, Ledger.step_publish]
        simp
      have hForget :=
        Ledger.forget_publish_steps recorder.store
          recorder.settings.probeTimeout now
          (recorder.record ⟨now, request, answer⟩)
          (recorder.recording.policy request) Publishing.mostSteps
          m.ledger
      rw [run_advances, hLast, take_of_ok hCall]
      constructor
      · rw [Recording.wrap_snd_of_ok hCall, forget, forget, hForget]
        rfl
      · rw [busy_eq_forget, hForget]
        simp [Publishing.outcome?_steps]

/- A call is taken down whatever comes of it. -/
theorem calls_atOnce
    (hIdle : m.busy = false)
    (now : Instant)
    (request : Request) :
    (m.run recorder (atOnce now request)).calls =
      m.calls ++
        [⟨now, request, (recorder.service.call now request m.inner).1⟩] := by
  rw [atOnce, run, step, hIdle, run_advances]
  cases hCall : (recorder.service.call now request m.inner).1 with
  | error fault =>
      simp only [Bool.false_eq_true, if_false]
      rw [take_of_error hCall]
  | ok answer =>
      simp only [Bool.false_eq_true, if_false]
      rw [take_of_ok hCall]

/- So are calls that are made one after the other. -/
theorem forget_callAll
    (hIdle : m.busy = false)
    (calls : List (Instant × Request))
    (flushing : Bool) :
    let m' :=
      m.run recorder (calls.flatMap fun call => atOnce call.1 call.2)
    recorder.callAll calls (m.forget recorder.settings flushing) =
        m'.forget recorder.settings flushing ∧
      m'.calls.map (fun call => (call.now, call.request)) =
        m.calls.map (fun call => (call.now, call.request)) ++ calls := by
  induction calls generalizing m with
  | nil => exact ⟨rfl, (List.append_nil _).symm⟩
  | cons call rest ih =>
      rcases forget_atOnce hIdle call.1 call.2 flushing with
        ⟨hCall, hStillIdle⟩
      rcases ih hStillIdle with ⟨hRest, hCalls⟩
      rw [List.flatMap_cons, run_append, Recorder.callAll, hCall]
      refine ⟨hRest, ?_⟩
      rw [hCalls, calls_atOnce hIdle]
      simp

end AtOnce

end Minutes

------------------------------------------------------------
-- One record for each call
------------------------------------------------------------

/-
  What is true of a recorder over a service and a store in given
  states, however its calls and the passes over its outbox go.
-/
structure Recorder.RecordsOnce
    (recorder : Recorder Request Answer Fault σ τ)
    (plan : Plan Request Answer)
    (s : σ)
    (t : τ) : Prop where
  /-
    One record is handed in for each call that is answered, in
    the order of the calls, and tells of this call as planned.
  -/
  told :
    ∀ moves : List (Minutes.Move Request),
      let m := (Minutes.create recorder.settings s t).run recorder moves
      List.Forall₂
        (fun call record =>
          Record.Tells plan recorder.settings call.now call.request
            call.answer record)
        m.answered m.handed
  /-
    Once a call has returned its record was accepted, waits, is in
    the hands of a pass, made way or was refused, and only one of
    these.
  -/
  placed :
    ∀ (moves : List (Minutes.Move Request)) (call : Nat),
      let m := (Minutes.create recorder.settings s t).run recorder moves
      call < m.answered.length →
        (call + 1 < m.answered.length ∨ m.busy = false) →
          ∃ place, m.ledger.OnlyIn place call
  /- What is found in a place was handed in by the call it bears. -/
  found :
    ∀ (moves : List (Minutes.Move Request)) (place : Place),
      let m := (Minutes.create recorder.settings s t).run recorder moves
      ∀ ticket ∈ m.ledger.itemsIn place,
        m.handed[ticket.call]? = some ticket.item
  /-
    The calls of the recorded service, one after the other, act
    as such a run does in which nothing else happens.
  -/
  called :
    ∀ (calls : List (Instant × Request)) (flushing : Bool),
      let m :=
        (Minutes.create recorder.settings s t).run recorder
          (calls.flatMap fun call => Minutes.atOnce call.1 call.2)
      recorder.callAll calls
            { inner := s
              outbox := .create recorder.settings t
              flushing := flushing } =
          m.forget recorder.settings flushing ∧
        m.calls.map (fun call => (call.now, call.request)) = calls

/- A recorder whose events are as planned records each call once. -/
theorem Recorder.recordsOnce
    (recorder : Recorder Request Answer Fault σ τ)
    {plan : Plan Request Answer}
    (hFollows : recorder.recording.Follows plan)
    (s : σ)
    (t : τ) :
    recorder.RecordsOnce plan s t := by
  have hKept :
      ∀ moves,
        ((Minutes.create recorder.settings s t).run recorder moves).Kept
          recorder :=
    fun moves => Minutes.kept_run recorder moves (.create recorder s t)
  constructor
  · intro moves m
    rw [(hKept moves).recorded, List.forall₂_map_right_iff,
      List.forall₂_same]
    intro call _
    exact hFollows.tells recorder.settings call.now call.request call.answer
  · intro moves call m hAnswered hReturned
    exact (hKept moves).exists_onlyIn hAnswered hReturned
  · intro moves place m ticket hTicket
    exact (hKept moves).balanced.item_eq hTicket
  · intro calls flushing
    exact Minutes.forget_callAll (m := Minutes.create recorder.settings s t)
      rfl calls flushing

end Recorders

/-
  The recorders of both services record each call that succeeds
  once, and as planned, whatever the service and the store do.
-/
theorem services_recorded_once
    {σ τ : Type}
    (store : Store Record τ)
    (settings : OutboxSettings)
    (s : σ)
    (t : τ) :
    (∀ service :
        Service Bootstrap.Request Bootstrap.Request.Answer
          Bootstrap.Fault σ,
      Recorder.RecordsOnce ⟨Bootstrap.recording, service, store, settings⟩
        Bootstrap.plan s t) ∧
    (∀ service :
        Service Policy.Request Policy.Request.Answer Policy.Fault σ,
      Recorder.RecordsOnce ⟨Policy.recording, service, store, settings⟩
        Policy.plan s t) :=
  ⟨fun _ => Recorder.recordsOnce _ Bootstrap.follows_plan s t,
    fun _ => Recorder.recordsOnce _ Policy.follows_plan s t⟩

namespace Policy

/- A recorder before an outbox with room for one record. -/
def crowdedRecorder :
    Recorder Request Request.Answer Fault (List Request)
      (Scripted (List Record)) where
  recording := recording
  service := listless
  store := Scripted.store .list
  settings := { OutboxSettings.forStream stream with bufferCapacity := 1 }

/- A store that is away twice, and refuses the record after that. -/
def crowdedScript : Scripted (List Record) :=
  (Scripted.create []).cue
    [ .fail (.unavailable "away"), .fail (.unavailable "away") ]
    [ .fail (.rejected "full") ]

/- Four calls, of which the second fails. -/
def crowdedCalls : List (Instant × Request) :=
  [ (⟨0⟩, .authorize ⟨"subject", "object", "read"⟩ "thing")
  , (⟨1⟩, .listPolicies "token" .empty)
  , (⟨2⟩, .deletePolicy "token" .empty)
  , (⟨3⟩, .addPolicy "token" .empty) ]

/- The records of the others make way, wait and are refused. -/
theorem crowded_recorded_once :
    let m :=
      (Minutes.create crowdedRecorder.settings [] crowdedScript).run
        crowdedRecorder
        (crowdedCalls.flatMap fun call => Minutes.atOnce call.1 call.2)
    (m.ledger.itemsIn .evicted).map (·.call) = [0] ∧
      (m.ledger.itemsIn .waiting).map (·.call) = [1] ∧
      (m.ledger.itemsIn .refused).map (·.call) = [2] ∧
      m.handed.map (·.operation?) =
        [some "policy.authorize", some "policy.delete",
          some "policy.add"] ∧
      (∀ call < 3, ∃ place, m.ledger.OnlyIn place call) ∧
      crowdedRecorder.callAll crowdedCalls
          { inner := []
            outbox := .create crowdedRecorder.settings crowdedScript
            flushing := false } =
        m.forget crowdedRecorder.settings false := by
  intro m
  have hOnce :=
    (services_recorded_once (Scripted.store .list)
      crowdedRecorder.settings [] crowdedScript).2 listless
  have hHanded :
      m.handed.map (·.operation?) =
        [some "policy.authorize", some "policy.delete",
          some "policy.add"] := by
    decide
  have hPlaced : ∀ call < 3, ∃ place, m.ledger.OnlyIn place call :=
    fun call hCall => hOnce.placed _ call hCall (.inr rfl)
  exact
    ⟨rfl, rfl, rfl, hHanded, hPlaced, (hOnce.called crowdedCalls false).1⟩

end Policy

end Courier
