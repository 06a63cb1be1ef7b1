import Courier.Bootstrap.Service
import Courier.Policy.Service
import Courier.Proofs.Outbox.Publishing
import Courier.Service.Scripted

/-
  A recorder in front of a service is transparent.  Each call
  reaches the service once, as it was made.  A call that fails
  is passed on and leaves the outbox alone.  A call that
  succeeds has the answer of the service, unless it changes
  something and a store that was reached refused its event.

  To say what reaches the service and the store, both are put
  behind a double that keeps what it is asked and answers as
  they do.

  Key definitions include:
    * `Service.heard`, `Store.watched`
    * `Recording.Refused`, `Recording.Unreached`
    * `Recording.Transparent`
    * `Bootstrap.Request.IsQuery`, `Policy.Request.IsQuery`

  Main statements:
    * `Recording.forget_observed`
    * `Recording.transparent`
    * `recordings_transparent`
-/

namespace Courier

------------------------------------------------------------
-- Doubles
------------------------------------------------------------

/- The state of a service, and the requests that reached it. -/
structure Heard (Request σ : Type) where
  inner : σ
  /- The requests so far, oldest first. -/
  requests : List Request

/- A service that keeps the requests that reach it. -/
def Service.heard
    {Request : Type}
    {Answer : Request → Type}
    {Fault σ : Type}
    (service : Service Request Answer Fault σ) :
    Service Request Answer Fault (Heard Request σ) where
  call := fun now request s =>
    let (answer, inner) := service.call now request s.inner
    (answer, ⟨inner, s.requests ++ [request]⟩)

/- How a store can be used. -/
inductive StoreUse (α : Type) where
  | probe (limit : Duration)
  | append (now : Instant) (item : α)

/- The state of a store, and how it was used. -/
structure Watched (α σ : Type) where
  inner : σ
  /- All uses so far, oldest first. -/
  uses : List (StoreUse α)

/- A store that keeps how it is used. -/
def Store.watched
    {α σ : Type}
    (store : Store α σ) : Store α (Watched α σ) where
  ping := fun limit s =>
    let (probe, inner) := store.ping limit s.inner
    (probe, ⟨inner, s.uses ++ [.probe limit]⟩)
  append := fun now item s =>
    let (answer, inner) := store.append now item s.inner
    (answer, ⟨inner, s.uses ++ [.append now item]⟩)

section Forget

variable {α σ τ : Type}

/- What is shared, without the uses of the store. -/
def Shared.unwatched
    (s : Shared α (Watched α σ)) : Shared α σ where
  store := s.store.inner
  buffer := s.buffer

/- An outbox, without the uses of its store. -/
def Outbox.unwatched
    (o : Outbox (Watched Record τ)) : Outbox τ :=
  { o with shared := o.shared.unwatched }

/- A recorded service, without what its doubles keep. -/
def Recorded.forget
    {Request : Type}
    (s : Recorded (Heard Request σ) (Watched Record τ)) :
    Recorded σ τ where
  inner := s.inner.inner
  outbox := s.outbox.unwatched
  flushing := s.flushing

/- A call takes no notice of a store being watched. -/
theorem Publishing.step_unwatched
    (store : Store α σ)
    (limit : Duration)
    (now : Instant)
    (p : Publishing α)
    (s : Shared α (Watched α σ)) :
    p.step store limit now s.unwatched =
      ((p.step store.watched limit now s).1,
        (p.step store.watched limit now s).2.unwatched) := by
  cases p with
  | probing item policy =>
      simp only [step, Store.check, Store.watched, Shared.unwatched]
      split <;> rfl
  | appending item policy =>
      simp only [step, Store.watched, Shared.unwatched]
      split
      · rfl
      · split <;> rfl
  | buffering item => rfl
  | done result => rfl

theorem Publishing.steps_unwatched
    (store : Store α σ)
    (limit : Duration)
    (now : Instant)
    (n : Nat)
    (p : Publishing α)
    (s : Shared α (Watched α σ)) :
    steps store limit now n p s.unwatched =
      ((steps store.watched limit now n p s).1,
        (steps store.watched limit now n p s).2.unwatched) := by
  induction n generalizing p s with
  | zero => rfl
  | succ n ih =>
      simp only [steps]
      rw [step_unwatched]
      exact ih _ _

/- Nor does an outbox. -/
theorem Outbox.publish_unwatched
    (store : Store Record τ)
    (now : Instant)
    (event : Event)
    (policy : EmitPolicy)
    (o : Outbox (Watched Record τ)) :
    o.unwatched.publish store now event policy =
      ((o.publish store.watched now event policy).1,
        (o.publish store.watched now event policy).2.unwatched) := by
  have hSteps :=
    Publishing.steps_unwatched store o.probeTimeout now
      Publishing.mostSteps (.probing (o.recordOf now event) policy)
      o.shared
  simp only [publish, unwatched, Publishing.run]
  simp only [recordOf] at hSteps ⊢
  rw [hSteps]

end Forget

------------------------------------------------------------
-- Recorders
------------------------------------------------------------

namespace Recording

variable {Request : Type}
variable {Answer : Request → Type}
variable {Fault σ τ : Type}

/- The store refuses the event of a call that was answered. -/
def Refused
    (recording : Recording Request Answer Fault)
    (store : Store Record τ)
    (now : Instant)
    (request : Request)
    (value : Answer request)
    (s : Recorded σ τ)
    (fault : StoreFault) : Prop :=
  store.Refuses s.outbox.probeTimeout now
    (s.outbox.recordOf now (recording.event request value))
    s.outbox.shared.store fault

/- The store cannot be reached for the event of such a call. -/
def Unreached
    (recording : Recording Request Answer Fault)
    (store : Store Record τ)
    (now : Instant)
    (request : Request)
    (value : Answer request)
    (s : Recorded σ τ) : Prop :=
  store.Unreached s.outbox.probeTimeout now
    (s.outbox.recordOf now (recording.event request value))
    s.outbox.shared.store

section Wrap

variable {recording : Recording Request Answer Fault}
variable {store : Store Record τ}
variable {service : Service Request Answer Fault σ}
variable {now : Instant}
variable {request : Request}
variable {s : Recorded σ τ}

/- The service goes where the call takes it. -/
theorem inner_wrap :
    ((recording.wrap store service).call now request s).2.inner =
      (service.call now request s.inner).2 := by
  simp only [wrap]
  split
  · rfl
  · split <;> rfl

/- A call that fails is passed on. -/
theorem wrap_of_error
    {fault : Fault}
    (hCall : (service.call now request s.inner).1 = .error fault) :
    (recording.wrap store service).call now request s =
      (.error fault,
        { s with inner := (service.call now request s.inner).2 }) := by
  simp [wrap, hCall]

/- A call whose event was published has the answer of the service. -/
theorem wrap_of_published
    {value : Answer request}
    (hCall : (service.call now request s.inner).1 = .ok value)
    (hPublished :
      (Publishing.run store s.outbox.probeTimeout now
        (s.outbox.recordOf now (recording.event request value))
        (recording.policy request) s.outbox.shared).1 = .ok ()) :
    ((recording.wrap store service).call now request s).1 =
      .ok value := by
  simp [wrap, hCall, Outbox.publish, hPublished]

/-
  So has one whose event was refused, if the recorder passes
  over that.
-/
theorem wrap_of_passed
    {value : Answer request}
    (hCall : (service.call now request s.inner).1 = .ok value)
    (hPassed :
      recording.policy request = .bestEffort ∨
        ∀ fault, ¬ recording.Refused store now request value s fault) :
    ((recording.wrap store service).call now request s).1 =
      .ok value := by
  apply wrap_of_published hCall
  by_cases hRefused :
      ∃ fault, recording.Refused store now request value s fault
  · rcases hRefused with ⟨fault, hRefuses⟩
    rcases hPassed with hBestEffort | hNone
    · rw [Publishing.run_of_refuses hRefuses, hBestEffort]
      rfl
    · exact absurd hRefuses (hNone fault)
  · exact Publishing.run_of_not_refuses
      (fun fault hRefuses => hRefused ⟨fault, hRefuses⟩) _

/- All others whose event was refused report that. -/
theorem wrap_of_refused
    {value : Answer request}
    (hCall : (service.call now request s.inner).1 = .ok value)
    (hRequired : recording.policy request ≠ .bestEffort)
    {fault : StoreFault}
    (hRefused : recording.Refused store now request value s fault) :
    ((recording.wrap store service).call now request s).1 =
      .error (recording.fault (.append fault)) := by
  have hRun :=
    Publishing.run_of_refuses (s := s.outbox.shared) hRefused
      (recording.policy request)
  cases hPolicy : recording.policy request with
  | bestEffort => exact absurd hPolicy hRequired
  | required =>
      rw [hPolicy] at hRun
      simp [wrap, hCall, Outbox.publish, hPolicy, hRun,
        Publishing.refusal]

end Wrap

/- A recorder with doubles of the service and of the store. -/
def observed
    (recording : Recording Request Answer Fault)
    (store : Store Record τ)
    (service : Service Request Answer Fault σ) :
    Service Request Answer Fault
      (Recorded (Heard Request σ) (Watched Record τ)) :=
  recording.wrap store.watched service.heard

/- The doubles change nothing in what a recorder does. -/
theorem forget_observed
    (recording : Recording Request Answer Fault)
    (store : Store Record τ)
    (service : Service Request Answer Fault σ)
    (now : Instant)
    (request : Request)
    (s : Recorded (Heard Request σ) (Watched Record τ)) :
    (recording.wrap store service).call now request s.forget =
      (((recording.observed store service).call now request s).1,
        ((recording.observed store service).call
          now request s).2.forget) := by
  simp only [observed, wrap, Service.heard, Recorded.forget,
    Outbox.publish_unwatched]
  cases (service.call now request s.inner.inner).1 with
  | error fault => rfl
  | ok value =>
      dsimp only
      cases (s.outbox.publish store.watched now
          (recording.event request value)
          (recording.policy request)).1 with
      | error fault => rfl
      | ok published => rfl

/- Nor do they change what a caller hears. -/
theorem observed_fst
    {recording : Recording Request Answer Fault}
    {store : Store Record τ}
    {service : Service Request Answer Fault σ}
    {now : Instant}
    {request : Request}
    {s : Recorded (Heard Request σ) (Watched Record τ)} :
    ((recording.observed store service).call now request s).1 =
      ((recording.wrap store service).call now request s.forget).1 := by
  rw [forget_observed]

------------------------------------------------------------
-- Transparency
------------------------------------------------------------

/-
  What a recorder owes to the caller of a service, where some
  requests change nothing, and the faults of an outbox are
  reported in a given way.
-/
structure Transparent
    (recording : Recording Request Answer Fault)
    (IsQuery : Request → Prop)
    (report : OutboxFault → Fault)
    (store : Store Record τ)
    (service : Service Request Answer Fault σ)
    (now : Instant)
    (request : Request)
    (s : Recorded (Heard Request σ) (Watched Record τ)) : Prop where
  /- The service is called once, with the request as it was made. -/
  asked :
    ((recording.observed store service).call now request s).2.inner =
      { inner := (service.call now request s.inner.inner).2
        requests := s.inner.requests ++ [request] }
  /-
    A call that fails is passed on.  The outbox stays as it is,
    its buffer and all uses of its store included.
  -/
  failed :
    ∀ fault,
      (service.call now request s.inner.inner).1 = .error fault →
      ((recording.observed store service).call now request s).1 =
          .error fault ∧
        ((recording.observed store service).call now request s).2.outbox =
          s.outbox
  /-
    A call that succeeds reports a refusal exactly if it changes
    something and its event is refused.
  -/
  refused :
    ∀ value fault,
      (service.call now request s.inner.inner).1 = .ok value →
      (((recording.observed store service).call now request s).1 =
          .error (report (.append fault)) ↔
        ¬ IsQuery request ∧
          recording.Refused store now request value s.forget fault)
  /- All others that succeed have the answer of the service. -/
  passed :
    ∀ value,
      (service.call now request s.inner.inner).1 = .ok value →
      (IsQuery request ∨
        ∀ fault,
          ¬ recording.Refused store now request value s.forget fault) →
      ((recording.observed store service).call now request s).1 =
        .ok value
  /- So have those whose event finds the store out of reach. -/
  unreached :
    ∀ value,
      (service.call now request s.inner.inner).1 = .ok value →
      recording.Unreached store now request value s.forget →
      ((recording.observed store service).call now request s).1 =
        .ok value
  /- The recorder does the same without doubles. -/
  undisturbed :
    (recording.wrap store service).call now request s.forget =
      (((recording.observed store service).call now request s).1,
        ((recording.observed store service).call
          now request s).2.forget)

/-
  A recorder is transparent that passes over the refusals of
  events of queries, and of no others.
-/
theorem transparent
    {recording : Recording Request Answer Fault}
    {IsQuery : Request → Prop}
    (hPolicy :
      ∀ request,
        recording.policy request = .bestEffort ↔ IsQuery request)
    (hReport : Function.Injective recording.fault)
    (store : Store Record τ)
    (service : Service Request Answer Fault σ)
    (now : Instant)
    (request : Request)
    (s : Recorded (Heard Request σ) (Watched Record τ)) :
    recording.Transparent IsQuery recording.fault store service
      now request s where
  asked := inner_wrap
  failed := by
    intro fault hCall
    have hHeard :
        (service.heard.call now request s.inner).1 = .error fault := hCall
    rw [observed, wrap_of_error hHeard]
    exact ⟨rfl, rfl⟩
  refused := by
    intro value fault hCall
    rw [observed_fst]
    constructor
    · intro hAnswer
      have hNotPassed :
          ¬ (recording.policy request = .bestEffort ∨
            ∀ other,
              ¬ recording.Refused store now request value s.forget
                other) := by
        intro hPassed
        rw [wrap_of_passed hCall hPassed] at hAnswer
        exact absurd hAnswer nofun
      rw [not_or, Classical.not_forall_not] at hNotPassed
      rcases hNotPassed with ⟨hNotBest, other, hRefused⟩
      rw [wrap_of_refused hCall hNotBest hRefused] at hAnswer
      cases hReport (Except.error.inj hAnswer)
      exact ⟨fun hQuery => hNotBest ((hPolicy request).mpr hQuery),
        hRefused⟩
    · rintro ⟨hChange, hRefused⟩
      have hRequired : recording.policy request ≠ .bestEffort :=
        fun hBestEffort => hChange ((hPolicy request).mp hBestEffort)
      exact wrap_of_refused hCall hRequired hRefused
  passed := by
    intro value hCall hPassed
    rw [observed_fst]
    exact wrap_of_passed hCall
      (hPassed.imp_left (hPolicy request).mpr)
  unreached := by
    intro value hCall hUnreached
    rw [observed_fst]
    exact wrap_of_passed hCall (Or.inr hUnreached.not_refuses)
  undisturbed := forget_observed recording store service now request s

end Recording

------------------------------------------------------------
-- The recorders of both services
------------------------------------------------------------

/- Whether a request on the bootstrap service changes nothing. -/
def Bootstrap.Request.IsQuery : Request → Prop
  | view .. => True
  | list .. => True
  | _ => False

/- Whether a request on the policy service changes nothing. -/
def Policy.Request.IsQuery : Request → Prop
  | authorize .. => True
  | listPolicies .. => True
  | _ => False

theorem Bootstrap.Request.policy_eq_bestEffort_iff
    (request : Request) :
    recording.policy request = .bestEffort ↔ request.IsQuery := by
  cases request with
  | _ => simp [recording, policy, IsQuery]

theorem Policy.Request.policy_eq_bestEffort_iff
    (request : Request) :
    recording.policy request = .bestEffort ↔ request.IsQuery := by
  cases request with
  | _ => simp [recording, policy, IsQuery]

/-
  The recorders of both services are transparent: whatever
  the service and the store do, for each request, and in every
  state of the service, of the outbox and of its store.
-/
theorem recordings_transparent
    {σ τ : Type}
    (store : Store Record τ)
    (now : Instant) :
    (∀ (service :
          Service Bootstrap.Request Bootstrap.Request.Answer
            Bootstrap.Fault σ)
        (request : Bootstrap.Request)
        (s : Recorded (Heard Bootstrap.Request σ) (Watched Record τ)),
      Bootstrap.recording.Transparent Bootstrap.Request.IsQuery
        .outbox store service now request s) ∧
    (∀ (service :
          Service Policy.Request Policy.Request.Answer Policy.Fault σ)
        (request : Policy.Request)
        (s : Recorded (Heard Policy.Request σ) (Watched Record τ)),
      Policy.recording.Transparent Policy.Request.IsQuery
        .outbox store service now request s) := by
  refine ⟨?_, ?_⟩
  · intro service request s
    exact Recording.transparent
      Bootstrap.Request.policy_eq_bestEffort_iff
      (fun _ _ hSame => Bootstrap.Fault.outbox.inj hSame)
      store service now request s
  · intro service request s
    exact Recording.transparent
      Policy.Request.policy_eq_bestEffort_iff
      (fun _ _ hSame => Policy.Fault.outbox.inj hSame)
      store service now request s

namespace Policy

/- A policy service that has no pages to list. -/
def listless :
    Service Request Request.Answer Fault (List Request) :=
  .scripted fun
    | .authorize .. => .ok "subject"
    | .addPolicy _ policy => .ok policy
    | .updatePolicy _ policy => .ok policy
    | .listPolicies .. => .error .notFound
    | .deletePolicy .. => .ok ()

/- A store that is reached and refuses all records. -/
def refusing : Store Record Unit where
  ping := fun _ s => (.immediate (.ok ()), s)
  append := fun _ _ s => (.error (.rejected "full"), s)

/- A recorder between the two, before any call. -/
def unheard :
    Recorded (Heard Request (List Request)) (Watched Record Unit) where
  inner := { inner := [], requests := [] }
  outbox :=
    { stream := stream
      streamLength := 1000
      probeTimeout := ⟨1000⟩
      shared :=
        { store := { inner := (), uses := [] }
          buffer := .create 4 } }
  flushing := false

/-
  A change reports that its event was refused, a check does
  not, and a listing that fails leaves the outbox alone.
-/
theorem refusing_transparent :
    let call := fun request =>
      (recording.observed refusing listless).call ⟨0⟩ request unheard
    (call (.deletePolicy "token" .empty)).1 =
        .error (.outbox (.append (.rejected "full"))) ∧
      (call (.authorize ⟨"subject", "object", "read"⟩ "thing")).1 =
        .ok "subject" ∧
      (call (.listPolicies "token" .empty)).1 = .error .notFound ∧
      (call (.listPolicies "token" .empty)).2.outbox =
        unheard.outbox ∧
      (call (.listPolicies "token" .empty)).2.inner.requests =
        [.listPolicies "token" .empty] := by
  have hTransparent := (recordings_transparent refusing ⟨0⟩).2 listless
  have hDelete := hTransparent (.deletePolicy "token" .empty) unheard
  have hCheck :=
    hTransparent (.authorize ⟨"subject", "object", "read"⟩ "thing")
      unheard
  have hList := hTransparent (.listPolicies "token" .empty) unheard
  have hFailed := hList.failed .notFound rfl
  refine ⟨?_, ?_, hFailed.1, hFailed.2, ?_⟩
  · exact (hDelete.refused () (.rejected "full") rfl).mpr
      ⟨id, ⟨rfl, rfl, rfl, rfl⟩⟩
  · exact hCheck.passed "subject" rfl (Or.inl trivial)
  · rw [hList.asked]
    rfl

end Policy

end Courier
