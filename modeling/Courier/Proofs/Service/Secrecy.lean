import Courier.Proofs.Outbox.Likeness
import Courier.Proofs.Service.Records

/-
  A recorder keeps secrets to itself.  To redact a call is to
  blank what must not be known of it: tokens and keys in its
  request, and the keys and certificates of the configurations
  in both its request and its answer.

  The events of both services are the same for calls that are
  the same when redacted.  So two recorders whose calls are the
  same when redacted use their stores alike, and the same
  records wait, make way, and are accepted or refused, but for
  the times that they bear.

  The certificates that a call replaces are what its record is
  about, and are not redacted in its request.

  Key definitions include:
    * `Redaction`, `Bootstrap.redaction`, `Policy.redaction`
    * `Record.Twins`
    * `Recording.Conceals`
    * `Recording.KeepsSecrets`

  Main statements:
    * `MemoryStore.agrees`
    * `Minutes.Alike.run`
    * `services_keep_secrets`
-/

namespace Courier

------------------------------------------------------------
-- Redaction
------------------------------------------------------------

/- How requests and answers are blanked. -/
structure Redaction
    (Request : Type)
    (Answer : Request → Type) where
  request : Request → Request
  answer : (r : Request) → Answer r → Answer (request r)

/- A call without its secrets, nor the time at which it was made. -/
def Taken.redact
    {Request : Type}
    {Answer : Request → Type}
    {Fault : Type}
    (redaction : Redaction Request Answer)
    (call : Taken Request Answer Fault) :
    Taken Request Answer Fault where
  now := ⟨0⟩
  request := redaction.request call.request
  result := call.result.map (redaction.answer call.request)

namespace Bootstrap

/- A configuration without its keys and certificates. -/
def Configuration.redact
    (config : Configuration) : Configuration :=
  { config with
    thingKey := ""
    externalKey := ""
    clientCert := ""
    clientKey := ""
    caCert := "" }

/- A page without the keys and certificates on it. -/
def ConfigurationPage.redact
    (page : ConfigurationPage) : ConfigurationPage :=
  { page with configs := page.configs.map Configuration.redact }

/- A request without its secrets. -/
def Request.redact : Request → Request
  | add _ config => add "" config.redact
  | view _ id => view "" id
  | update _ config => update "" config.redact
  | updateCert _ thingKey clientCert clientKey caCert =>
      updateCert "" thingKey clientCert clientKey caCert
  | updateConnections _ id connections =>
      updateConnections "" id connections
  | list _ filter offset limit => list "" filter offset limit
  | remove _ id => remove "" id
  | bootstrap _ externalId _ => bootstrap "" externalId false
  | changeState _ id state => changeState "" id state
  | removeConfigHandler id => removeConfigHandler id
  | removeChannelHandler id => removeChannelHandler id
  | updateChannelHandler channel => updateChannelHandler channel
  | disconnectThingHandler channelId thingId =>
      disconnectThingHandler channelId thingId

/- An answer without its secrets. -/
def Request.redactAnswer :
    (request : Request) → request.Answer → request.redact.Answer
  | add .., config => config.redact
  | view .., config => config.redact
  | update .., done => done
  | updateCert .., config => config.redact
  | updateConnections .., done => done
  | list .., page => page.redact
  | remove .., done => done
  | bootstrap .., config => config.redact
  | changeState .., done => done
  | removeConfigHandler _, done => done
  | removeChannelHandler _, done => done
  | updateChannelHandler _, done => done
  | disconnectThingHandler .., done => done

/- How the calls of the bootstrap service are redacted. -/
def redaction : Redaction Request Request.Answer where
  request := Request.redact
  answer := Request.redactAnswer

end Bootstrap

namespace Policy

/- A request without its token. -/
def Request.redact : Request → Request
  | authorize request entity => authorize request entity
  | addPolicy _ policy => addPolicy "" policy
  | updatePolicy _ policy => updatePolicy "" policy
  | listPolicies _ page => listPolicies "" page
  | deletePolicy _ policy => deletePolicy "" policy

/- Answers bear no secrets. -/
def Request.redactAnswer :
    (request : Request) → request.Answer → request.redact.Answer
  | authorize .., subject => subject
  | addPolicy .., policy => policy
  | updatePolicy .., policy => policy
  | listPolicies .., page => page
  | deletePolicy .., done => done

/- How the calls of the policy service are redacted. -/
def redaction : Redaction Request Request.Answer where
  request := Request.redact
  answer := Request.redactAnswer

end Policy

------------------------------------------------------------
-- Recorders that conceal
------------------------------------------------------------

section Recorders

variable {Request : Type}
variable {Answer : Request → Type}
variable {Fault σ σ' τ : Type}

/- Nothing that is redacted is told in the event of a call. -/
structure Recording.Conceals
    (recording : Recording Request Answer Fault)
    (redaction : Redaction Request Answer) : Prop where
  event :
    ∀ request answer,
      recording.event (redaction.request request)
          (redaction.answer request answer) =
        recording.event request answer
  policy :
    ∀ request,
      recording.policy (redaction.request request) =
        recording.policy request

/- The event of a call that was answered, and what it is emitted by. -/
def Recording.emitted?
    (recording : Recording Request Answer Fault)
    (call : Taken Request Answer Fault) : Option (Event × EmitPolicy) :=
  call.answered?.map fun answered =>
    (recording.event answered.request answered.answer,
      recording.policy answered.request)

/- The same is emitted for calls that are the same when redacted. -/
theorem Recording.Conceals.emitted?_redact
    {recording : Recording Request Answer Fault}
    {redaction : Redaction Request Answer}
    (hConceals : recording.Conceals redaction)
    (call : Taken Request Answer Fault) :
    recording.emitted? (call.redact redaction) =
      recording.emitted? call := by
  rcases call with ⟨now, request, result⟩
  cases result with
  | error fault => rfl
  | ok answer =>
      simp [emitted?, Taken.redact, Taken.answered?, Except.map,
        hConceals.event, hConceals.policy]

end Recorders

/- The bootstrap service conceals what is redacted. -/
theorem Bootstrap.conceals :
    recording.Conceals redaction where
  event := by
    intro request answer
    cases request with
    | _ => rfl
  policy := by
    intro request
    cases request with
    | _ => rfl

/- So does the policy service. -/
theorem Policy.conceals :
    recording.Conceals redaction where
  event := by
    intro request answer
    cases request with
    | _ => rfl
  policy := by
    intro request
    cases request with
    | _ => rfl

------------------------------------------------------------
-- Records that differ in time
------------------------------------------------------------

/- Records of one event, made at times that are alike. -/
def Record.Twins
    (T : Instant → Instant → Prop)
    (r r' : Record) : Prop :=
  ∃ now now' stream maxLength event,
    T now now' ∧
      r = .ofEvent now stream maxLength event ∧
      r' = .ofEvent now' stream maxLength event

/- They are the same but for the field that bears the time. -/
theorem Record.Twins.same
    {T : Instant → Instant → Prop}
    {r r' : Record}
    (h : r.Twins T r') :
    r.stream = r'.stream ∧
      r.maxLength = r'.maxLength ∧
      ∀ name, name ≠ occurredAtField → r.get? name = r'.get? name := by
  rcases h with ⟨now, now', stream, maxLength, event, -, rfl, rfl⟩
  refine ⟨rfl, rfl, ?_⟩
  intro name hName
  have hOther : name ≠ "occurred_at" := hName
  simp only [get?_ofEvent, if_neg hOther]

/- Entries that are the same but for their times and ids. -/
def Entry.Alike (e e' : Entry) : Prop :=
  ∀ name, name ≠ Record.occurredAtField →
    e.fields.get? name = e'.fields.get? name

namespace MemoryStore

/- Stores in memory with entries that are alike, and the same otherwise. -/
structure Alike (s s' : MemoryStore) : Prop where
  available : s.available = s'.available
  latency : s.latency = s'.latency
  failing : s.failing = s'.failing
  sequence : s.sequence = s'.sequence
  entries :
    ∀ stream,
      List.Forall₂ Entry.Alike (s.entries stream) (s'.entries stream)

/- Entries that are alike are trimmed alike. -/
theorem rel_trim
    (cap : Nat)
    {entries entries' : List Entry}
    (h : List.Forall₂ Entry.Alike entries entries') :
    List.Forall₂ Entry.Alike (trim cap entries) (trim cap entries') := by
  simp only [trim, h.length_eq]
  split
  · exact h
  · exact List.forall₂_drop _ h

/- A store in memory does not look at the times of records. -/
theorem agrees
    (T : Instant → Instant → Prop) :
    store.Agrees T (Record.Twins T) Alike where
  probed := by
    intro limit s s' h
    refine ⟨?_, h⟩
    simp only [store, ping, h.available, h.latency]
  appended := by
    intro now now' r r' s s' _ hTwins h
    rcases hTwins.same with ⟨hStream, hMaxLength, hFields⟩
    simp only [store, append, h.available, h.failing]
    split
    · exact ⟨.error _, h⟩
    · split
      · exact ⟨.error _, rfl, h.latency, rfl, h.sequence, h.entries⟩
      · refine
          ⟨.ok _ _, rfl, h.latency, rfl,
            congrArg (· + 1) h.sequence, ?_⟩
        intro stream
        simp only [MemoryStore.entries, Dict.get?_insert, ← hStream,
          ← hMaxLength]
        split
        · exact
            rel_trim _
              (List.rel_append (h.entries r.stream) (.cons hFields .nil))
        · exact h.entries stream

end MemoryStore

------------------------------------------------------------
-- Runs that emit the same events
------------------------------------------------------------

section Runs

variable {Request : Type}
variable {Answer : Request → Type}
variable {Fault σ σ' τ : Type}

/- The same move at times that are alike, whatever is requested. -/
inductive Minutes.Move.Alike
    (T : Instant → Instant → Prop) :
    Move Request → Move Request → Prop where
  | call
      {now now' : Instant}
      (hNow : T now now')
      (request request' : Request) :
      Alike T (.call now request) (.call now' request')
  | advance
      {now now' : Instant}
      (hNow : T now now') :
      Alike T (.advance now) (.advance now')
  | flush : Alike T .flush .flush
  | retry
      (pass : Nat)
      {now now' : Instant}
      (hNow : T now now') :
      Alike T (.retry pass now) (.retry pass now')

/- Minutes of as many calls, with records that differ in time only. -/
structure Minutes.Alike
    (T : Instant → Instant → Prop)
    (R : τ → τ → Prop)
    (m : Minutes Request Answer Fault σ τ)
    (m' : Minutes Request Answer Fault σ' τ) : Prop where
  ledger : m.ledger.Alike (Record.Twins T) R m'.ledger
  calls : m.calls.length = m'.calls.length

namespace Minutes

/- A call is taken down, and its event is emitted if it has one. -/
theorem take_eq
    (recorder : Recorder Request Answer Fault σ τ)
    (now : Instant)
    (request : Request)
    (m : Minutes Request Answer Fault σ τ) :
    let call : Taken Request Answer Fault :=
      ⟨now, request, (recorder.service.call now request m.inner).1⟩
    (m.take recorder now request).calls = m.calls ++ [call] ∧
      (m.take recorder now request).ledger =
        match recorder.recording.emitted? call with
        | none => m.ledger
        | some (event, policy) =>
            m.ledger.step recorder.store recorder.settings.probeTimeout
              (.publish
                (.ofEvent now recorder.settings.stream
                  recorder.settings.streamLength event)
                policy) := by
  intro call
  cases hCall : (recorder.service.call now request m.inner).1 with
  | error fault =>
      rw [take_of_error hCall]
      simp only [call, hCall]
      exact ⟨trivial, rfl⟩
  | ok answer =>
      rw [take_of_ok hCall]
      simp only [call, hCall]
      exact ⟨trivial, rfl⟩

/- No call is taken down anew, nor struck out. -/
theorem calls_run
    (recorder : Recorder Request Answer Fault σ τ)
    (moves : List (Move Request))
    (m : Minutes Request Answer Fault σ τ) :
    m.calls <+: (m.run recorder moves).calls := by
  induction moves generalizing m with
  | nil => exact List.prefix_refl _
  | cons move rest ih =>
      refine List.IsPrefix.trans ?_ (ih (m.step recorder move))
      cases move with
      | call now request =>
          simp only [step]
          split
          · exact List.prefix_refl _
          · rw [(take_eq recorder now request m).1]
            exact List.prefix_append _ _
      | _ => exact List.prefix_refl _

namespace Alike

variable {recording : Recording Request Answer Fault}
variable {store : Store Record τ}
variable {settings : OutboxSettings}
variable {service : Service Request Answer Fault σ}
variable {service' : Service Request Answer Fault σ'}
variable {T : Instant → Instant → Prop}
variable {R : τ → τ → Prop}
variable {m : Minutes Request Answer Fault σ τ}
variable {m' : Minutes Request Answer Fault σ' τ}

/- A call has not returned if the other has not. -/
theorem busy
    (h : m.Alike T R m') :
    m.busy = m'.busy := by
  have hCalls := h.ledger.traffic.publishings
  have hLast : m.last = m'.last := by
    rw [last, last, hCalls.length_eq]
  rw [Minutes.busy, Minutes.busy, ← hLast]
  rcases rel_getElem? hCalls m.last with
    ⟨hNone, hNone'⟩ | ⟨p, p', hCall, hCall', hSame⟩
  · rw [hNone, hNone']
  · rw [hCall, hCall']
    cases hSame with
    | _ => rfl

/- A move of the outbox leaves minutes alike. -/
theorem onOutbox
    (hStore : store.Agrees T (Record.Twins T) R)
    (h : m.Alike T R m')
    {move move' : Traffic.Move Record}
    (hMove : move.Alike T (Record.Twins T) move') :
    (m.onOutbox ⟨recording, service, store, settings⟩ move).Alike T R
      (m'.onOutbox ⟨recording, service', store, settings⟩ move') :=
  ⟨h.ledger.step hStore settings.probeTimeout hMove, h.calls⟩

/- So does a call, if the same is emitted for it. -/
theorem take
    (hStore : store.Agrees T (Record.Twins T) R)
    (h : m.Alike T R m')
    {now now' : Instant}
    (hNow : T now now')
    {request request' : Request}
    (hEmitted :
      (m.take ⟨recording, service, store, settings⟩ now
          request).calls.map recording.emitted? =
        (m'.take ⟨recording, service', store, settings⟩ now'
          request').calls.map recording.emitted?) :
    (m.take ⟨recording, service, store, settings⟩ now request).Alike T R
      (m'.take ⟨recording, service', store, settings⟩ now' request') := by
  have hTaken :=
    take_eq ⟨recording, service, store, settings⟩ now request m
  have hTaken' :=
    take_eq ⟨recording, service', store, settings⟩ now' request' m'
  rw [hTaken.1, hTaken'.1, List.map_append, List.map_append] at hEmitted
  have hLast := (List.append_inj hEmitted (by simp [h.calls])).2
  have hCall := (List.cons.inj hLast).1
  refine ⟨?_, ?_⟩
  · rw [hTaken.2, hTaken'.2]
    simp only [← hCall]
    split
    · exact h.ledger
    · rename_i event policy _
      refine h.ledger.step hStore _ (.publish ?_ policy)
      exact ⟨now, now', _, _, event, hNow, rfl, rfl⟩
  · rw [hTaken.1, hTaken'.1, List.length_append, List.length_append,
      h.calls]
    rfl

/- As many calls are taken down in one move as in the other. -/
theorem length_calls_step
    (h : m.Alike T R m')
    (recorder : Recorder Request Answer Fault σ τ)
    (recorder' : Recorder Request Answer Fault σ' τ)
    {move move' : Move Request}
    (hMove : move.Alike T move') :
    (m.step recorder move).calls.length =
      (m'.step recorder' move').calls.length := by
  cases hMove with
  | call hNow request request' =>
      simp only [Minutes.step, ← h.busy]
      split
      · exact h.calls
      · rw [(take_eq recorder _ _ m).1, (take_eq recorder' _ _ m').1,
          List.length_append, List.length_append, h.calls]
        rfl
  | _ => exact h.calls

/- Minutes stay alike if the same is emitted for all calls so far. -/
theorem step
    (hStore : store.Agrees T (Record.Twins T) R)
    (h : m.Alike T R m')
    {move move' : Move Request}
    (hMove : move.Alike T move')
    (hEmitted :
      (m.step ⟨recording, service, store, settings⟩
          move).calls.map recording.emitted? =
        (m'.step ⟨recording, service', store, settings⟩
          move').calls.map recording.emitted?) :
    (m.step ⟨recording, service, store, settings⟩ move).Alike T R
      (m'.step ⟨recording, service', store, settings⟩ move') := by
  cases hMove with
  | call hNow request request' =>
      cases hBusy : m.busy with
      | true =>
          simp only [Minutes.step, ← h.busy, hBusy, if_true]
          exact h
      | false =>
          simp only [Minutes.step, ← h.busy, hBusy, Bool.false_eq_true,
            if_false] at hEmitted ⊢
          exact h.take hStore hNow hEmitted
  | advance hNow =>
      have hLast : m.last = m'.last := by
        rw [last, last, h.ledger.traffic.publishings.length_eq]
      simp only [Minutes.step, hLast]
      exact h.onOutbox hStore (.advance _ hNow)
  | flush => exact h.onOutbox hStore .flush
  | retry pass hNow => exact h.onOutbox hStore (.retry pass hNow)

/-
  After runs of the same moves minutes are alike, if the same is
  emitted for all calls.
-/
theorem run
    (hStore : store.Agrees T (Record.Twins T) R)
    (h : m.Alike T R m')
    {moves moves' : List (Move Request)}
    (hMoves : List.Forall₂ (Move.Alike T) moves moves')
    (hEmitted :
      (m.run ⟨recording, service, store, settings⟩
          moves).calls.map recording.emitted? =
        (m'.run ⟨recording, service', store, settings⟩
          moves').calls.map recording.emitted?) :
    (m.run ⟨recording, service, store, settings⟩ moves).Alike T R
      (m'.run ⟨recording, service', store, settings⟩ moves') := by
  induction hMoves generalizing m m' with
  | nil => exact h
  | cons hMove hRest ih =>
      rename_i move move' rest rest'
      refine ih (h.step hStore hMove ?_) hEmitted
      -- What is emitted by now is where both lists begin.
      rcases
          calls_run ⟨recording, service, store, settings⟩ rest
            (m.step ⟨recording, service, store, settings⟩ move) with
        ⟨later, hLater⟩
      rcases
          calls_run ⟨recording, service', store, settings⟩ rest'
            (m'.step ⟨recording, service', store, settings⟩ move') with
        ⟨later', hLater'⟩
      rw [Minutes.run, Minutes.run, ← hLater, ← hLater', List.map_append,
        List.map_append] at hEmitted
      refine (List.append_inj hEmitted ?_).1
      rw [List.length_map, List.length_map]
      exact h.length_calls_step _ _ hMove

end Alike

end Minutes

------------------------------------------------------------
-- Runs whose calls are the same when redacted
------------------------------------------------------------

/- Some calls on a service, one after the other, and what comes of them. -/
def Service.takeAll
    (service : Service Request Answer Fault σ) :
    List (Instant × Request) → σ → List (Taken Request Answer Fault)
  | [], _ => []
  | (now, request) :: rest, s =>
      ⟨now, request, (service.call now request s).1⟩
        :: takeAll service rest (service.call now request s).2

/- The minutes take down what comes of calls that are made in one go. -/
theorem Minutes.calls_takeAll
    {recorder : Recorder Request Answer Fault σ τ}
    {m : Minutes Request Answer Fault σ τ}
    (hIdle : m.busy = false)
    (calls : List (Instant × Request)) :
    (m.run recorder
        (calls.flatMap fun call => atOnce call.1 call.2)).calls =
      m.calls ++ recorder.service.takeAll calls m.inner := by
  induction calls generalizing m with
  | nil => exact (List.append_nil _).symm
  | cons call rest ih =>
      have hStillIdle :
          (m.run recorder (atOnce call.1 call.2)).busy = false :=
        (forget_atOnce hIdle call.1 call.2 false).2
      have hInner :
          (m.run recorder (atOnce call.1 call.2)).inner =
            (recorder.service.call call.1 call.2 m.inner).2 := by
        have hForget :
            ((recorder.recording.wrap recorder.store recorder.service).call
                call.1 call.2 (m.forget recorder.settings false)).2 =
              _ :=
          (forget_atOnce hIdle call.1 call.2 false).1
        have hKept := congrArg Recorded.inner hForget
        rw [Recording.inner_wrap] at hKept
        exact hKept.symm
      rw [List.flatMap_cons, run_append, ih hStillIdle,
        calls_atOnce hIdle, hInner, List.append_assoc]
      rfl

/- Calls of a recorded service are runs in which nothing else happens. -/
theorem Recorder.callAll_create
    (recorder : Recorder Request Answer Fault σ τ)
    (s : σ)
    (t : τ)
    (calls : List (Instant × Request))
    (flushing : Bool) :
    recorder.callAll calls
        { inner := s
          outbox := .create recorder.settings t
          flushing := flushing } =
      ((Minutes.create recorder.settings s t).run recorder
        (calls.flatMap fun call => Minutes.atOnce call.1 call.2)).forget
          recorder.settings flushing :=
  (Minutes.forget_callAll (m := Minutes.create recorder.settings s t)
    rfl calls flushing).1

/-
  Two recorded services that cannot be told apart by what was
  recorded, but for times.  The uses of their stores are kept.
-/
structure Recorded.Indistinct
    (T : Instant → Instant → Prop)
    (R : τ → τ → Prop)
    (s : Recorded σ (Watched Record τ))
    (s' : Recorded σ' (Watched Record τ)) : Prop where
  /- The stores were probed and appended to alike. -/
  used :
    List.Forall₂ (StoreUse.Alike T (Record.Twins T))
      s.outbox.shared.store.uses s'.outbox.shared.store.uses
  /- They are in states that are alike. -/
  stored :
    R s.outbox.shared.store.inner s'.outbox.shared.store.inner
  /- The same records wait. -/
  waiting :
    List.Forall₂ (Record.Twins T)
      s.outbox.unpublished s'.outbox.unpublished
  /- As many made way. -/
  evicted : s.outbox.evicted = s'.outbox.evicted

/-
  What a recorder owes to those whose secrets pass through the
  services behind it, over a store that does not tell records
  apart by their times.
-/
structure Recording.KeepsSecrets
    (recording : Recording Request Answer Fault)
    (redaction : Redaction Request Answer)
    (store : Store Record τ)
    (settings : OutboxSettings)
    (T : Instant → Instant → Prop)
    (R : τ → τ → Prop) : Prop where
  /-
    Take any two services, and any two runs of the same calls and
    of the same steps of passes over the outbox.  If the calls and
    what came of them are the same when redacted, both runs leave
    the same behind, and in each place the same records.
  -/
  traced :
    ∀ {σ σ' : Type}
      (service : Service Request Answer Fault σ)
      (service' : Service Request Answer Fault σ')
      (s : σ) (s' : σ') (t t' : τ)
      (moves moves' : List (Minutes.Move Request))
      (flushing : Bool),
      let m :=
        (Minutes.create settings s ⟨t, []⟩).run
          ⟨recording, service, store.watched, settings⟩ moves
      let m' :=
        (Minutes.create settings s' ⟨t', []⟩).run
          ⟨recording, service', store.watched, settings⟩ moves'
      R t t' →
      List.Forall₂ (Minutes.Move.Alike T) moves moves' →
      m.calls.map (·.redact redaction) =
          m'.calls.map (·.redact redaction) →
        (m.forget settings flushing).Indistinct T R
            (m'.forget settings flushing) ∧
          ∀ place,
            List.Forall₂ (Ticket.Alike (Record.Twins T))
              (m.ledger.itemsIn place) (m'.ledger.itemsIn place)
  /-
    So do calls on two recorded services, one after the other, if
    they and what comes of them behind the recorders are the same
    when redacted.
  -/
  called :
    ∀ {σ σ' : Type}
      (service : Service Request Answer Fault σ)
      (service' : Service Request Answer Fault σ')
      (s : σ) (s' : σ') (t t' : τ)
      (calls calls' : List (Instant × Request))
      (flushing : Bool),
      R t t' →
      List.Forall₂ (fun call call' => T call.1 call'.1) calls calls' →
      (service.takeAll calls s).map (·.redact redaction) =
          (service'.takeAll calls' s').map (·.redact redaction) →
        (Recorder.callAll
            ⟨recording, service, store.watched, settings⟩ calls
            { inner := s
              outbox := .create settings ⟨t, []⟩
              flushing := flushing }).Indistinct T R
          (Recorder.callAll
            ⟨recording, service', store.watched, settings⟩ calls'
            { inner := s'
              outbox := .create settings ⟨t', []⟩
              flushing := flushing })

/- What alike minutes leave behind cannot be told apart. -/
theorem Minutes.Alike.forget
    {T : Instant → Instant → Prop}
    {R : τ → τ → Prop}
    {m : Minutes Request Answer Fault σ (Watched Record τ)}
    {m' : Minutes Request Answer Fault σ' (Watched Record τ)}
    (h : m.Alike T (Watched.Alike T (Record.Twins T) R) m')
    (settings : OutboxSettings)
    (flushing : Bool) :
    (m.forget settings flushing).Indistinct T R
      (m'.forget settings flushing) := by
  have hStore := h.ledger.traffic.shared.store.inner
  have hBuffer := h.ledger.traffic.shared.buffer
  refine ⟨hStore.uses, hStore.inner, ?_, hBuffer.evicted⟩
  have hItems := hBuffer.items.imp fun _ _ hTicket => hTicket.item
  exact
    List.forall₂_map_left_iff.mpr (List.forall₂_map_right_iff.mpr hItems)

/- Calls that are made in one go take the same steps. -/
theorem Minutes.atOnce_alike
    {T : Instant → Instant → Prop}
    {now now' : Instant}
    (hNow : T now now')
    (request request' : Request) :
    List.Forall₂ (Move.Alike T)
      (atOnce now request) (atOnce now' request') :=
  .cons (.call hNow request request')
    (.cons (.advance hNow)
      (.cons (.advance hNow) (.cons (.advance hNow) .nil)))

/- A recorder that conceals what is redacted keeps it secret. -/
theorem Recording.Conceals.keepsSecrets
    {recording : Recording Request Answer Fault}
    {redaction : Redaction Request Answer}
    (hConceals : recording.Conceals redaction)
    {store : Store Record τ}
    (settings : OutboxSettings)
    {T : Instant → Instant → Prop}
    {R : τ → τ → Prop}
    (hStore : store.Agrees T (Record.Twins T) R) :
    recording.KeepsSecrets redaction store settings T R := by
  have hAlike :
      ∀ {σ σ' : Type}
        (service : Service Request Answer Fault σ)
        (service' : Service Request Answer Fault σ')
        (s : σ) (s' : σ') (t t' : τ)
        (moves moves' : List (Minutes.Move Request)),
        let m :=
          (Minutes.create settings s ⟨t, []⟩).run
            ⟨recording, service, store.watched, settings⟩ moves
        let m' :=
          (Minutes.create settings s' ⟨t', []⟩).run
            ⟨recording, service', store.watched, settings⟩ moves'
        R t t' →
        List.Forall₂ (Minutes.Move.Alike T) moves moves' →
        m.calls.map (·.redact redaction) =
            m'.calls.map (·.redact redaction) →
          m.Alike T (Watched.Alike T (Record.Twins T) R) m' := by
    intro σ σ' service service' s s' t t' moves moves' m m' hStart hMoves
      hCalls
    have hBoth := congrArg (List.map recording.emitted?) hCalls
    simp only [List.map_map, Function.comp_def,
      hConceals.emitted?_redact] at hBoth
    have hBegin :
        (Minutes.create settings s ⟨t, []⟩ :
          Minutes Request Answer Fault σ (Watched Record τ)).Alike T
          (Watched.Alike T (Record.Twins T) R)
          (Minutes.create settings s' ⟨t', []⟩ :
            Minutes Request Answer Fault σ' (Watched Record τ)) :=
      ⟨.create _ _ ⟨hStart, .nil⟩, rfl⟩
    exact hBegin.run hStore.watched hMoves hBoth
  constructor
  · intro σ σ' service service' s s' t t' moves moves' flushing m m' hStart
      hMoves hCalls
    have h := hAlike service service' s s' t t' moves moves' hStart hMoves
      hCalls
    exact ⟨h.forget settings flushing, h.ledger.itemsIn⟩
  · intro σ σ' service service' s s' t t' calls calls' flushing hStart
      hTimes hCalls
    have hMoves :
        List.Forall₂ (Minutes.Move.Alike T)
          (calls.flatMap fun call => Minutes.atOnce call.1 call.2)
          (calls'.flatMap fun call => Minutes.atOnce call.1 call.2) :=
      List.rel_flatMap hTimes fun _ _ hNow => Minutes.atOnce_alike hNow _ _
    have h :=
      hAlike service service' s s' t t' _ _ hStart hMoves
        (by rwa [Minutes.calls_takeAll rfl, Minutes.calls_takeAll rfl])
    rw [Recorder.callAll_create, Recorder.callAll_create]
    exact h.forget settings flushing

end Runs

/-
  The recorders of both services keep secrets, in front of any
  services, and over any store that does not tell records apart
  by their times.  Where the clocks are the same, this is so for
  every store.
-/
theorem services_keep_secrets
    {τ : Type}
    {store : Store Record τ}
    (settings : OutboxSettings)
    {T : Instant → Instant → Prop}
    {R : τ → τ → Prop}
    (hStore : store.Agrees T (Record.Twins T) R) :
    Bootstrap.recording.KeepsSecrets Bootstrap.redaction store settings
        T R ∧
      Policy.recording.KeepsSecrets Policy.redaction store settings T R :=
  ⟨Bootstrap.conceals.keepsSecrets settings hStore,
    Policy.conceals.keepsSecrets settings hStore⟩

namespace Bootstrap

/- A service that puts a secret into all its answers. -/
def vault
    (secret : String) :
    Service Request Request.Answer Fault (List Request) :=
  .scripted fun
    | .add _ config => .ok { config with thingKey := secret }
    | .bootstrap .. =>
        .ok
          { Configuration.empty with
            thingId := "thing"
            clientKey := secret
            externalKey := secret }
    | .remove .. => .ok ()
    | _ => .error .notFound

/- Calls that bear a secret, the first at some time. -/
def vaultCalls
    (secret : String)
    (start : Nat) : List (Instant × Request) :=
  [ (⟨start⟩, .add secret { Configuration.empty with caCert := secret })
  , (⟨start + 1⟩, .view secret "thing")
  , (⟨start + 2⟩, .bootstrap secret "door" (start == 0))
  , (⟨start + 3⟩, .remove secret "thing") ]

/- A recorder over a store in memory, before any call. -/
def vaultRecorder
    (secret : String) :
    Recorder Request Request.Answer Fault (List Request)
      (Watched Record MemoryStore) where
  recording := recording
  service := vault secret
  store := MemoryStore.store.watched
  settings := .forStream stream

/- What the calls leave behind over a store that first rejects one. -/
def vaultAfter
    (secret : String)
    (start : Nat) : Recorded (List Request) (Watched Record MemoryStore) :=
  (vaultRecorder secret).callAll (vaultCalls secret start)
    { inner := []
      outbox :=
        .create (vaultRecorder secret).settings
          ⟨MemoryStore.empty.failNextAppends 1, []⟩
      flushing := false }

/-
  Neither the secret nor the time of the calls can be told from
  what is recorded of them, one of which fails.
-/
theorem vault_keeps_secrets :
    (vaultAfter "first" 0).outbox.shared.store.uses.length = 6 ∧
      (vaultAfter "first" 0).Indistinct (fun _ _ => True)
        MemoryStore.Alike (vaultAfter "second" 1000000000000) := by
  have hStart :
      (MemoryStore.empty.failNextAppends 1).Alike
        (MemoryStore.empty.failNextAppends 1) :=
    ⟨rfl, rfl, rfl, rfl, fun _ => .nil⟩
  have hKeeps :=
    (services_keep_secrets (.forStream stream)
      (MemoryStore.agrees fun _ _ => True)).1
  refine ⟨rfl, ?_⟩
  exact
    hKeeps.called (vault "first") (vault "second") [] [] _ _
      (vaultCalls "first" 0) (vaultCalls "second" 1000000000000) false
      hStart
      (.cons trivial (.cons trivial (.cons trivial (.cons trivial .nil))))
      rfl

end Bootstrap

end Courier
