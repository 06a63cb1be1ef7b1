import Courier.Outbox.BrokerStore
import Courier.Outbox.Flushing
import Courier.Proofs.Json.Texts
import Courier.Proofs.Transport.Draining

/-
  This file follows a record from the store that publishes
  records on a broker in memory to the handlers there.

  An append that succeeds has put one message on the topic of
  its stream, and into one queue for each subscription that
  covers the topic.  The message bears the name of the stream
  as it is, and the fields of the record as JSON, from which
  they read back.  An append that fails has done nothing.  Its
  fault is one of the connection if the channel has a name and
  the broker is closed or not available.

  In an outbox, the record then waits if the fault was one of
  the connection, and is refused if not.  This is about the
  outcome of appends; there is none where the probe ahead of
  it fails.

  Key definitions include:
    * `Outbox.Buffers`, `Outbox.Refuses`
    * `BrokerStore.Appended`
    * `BrokerStore.Sent`
    * `BrokerStore.AppendsThrough`

  Main statements:
    * `BrokerStore.appended_of_append`
    * `BrokerStore.sent_afterSending`
    * `BrokerStore.appends_through`
-/

namespace Courier

open Registration

variable {H ω : Type}

------------------------------------------------------------
-- Faults in an outbox
------------------------------------------------------------

namespace Outbox

variable {α σ : Type}
variable {store : Store α σ}
variable {now : Instant}
variable {item : α}
variable {s : σ}
variable {f : StoreFault}

/- An item that is being appended comes to wait. -/
structure Buffers
    (store : Store α σ)
    (now : Instant)
    (item : α)
    (s : σ) : Prop where
  /- Where it is published it is put into the buffer. -/
  published :
    ∀ limit policy buffer,
      Publishing.steps store limit now 2 (.appending item policy)
          ⟨s, buffer⟩ =
        (.done (.ok ()), ⟨s, (buffer.push item).2⟩)
  /- Where it is retried it is put back, and so is what follows. -/
  flushed :
    ∀ limit tally rest buffer,
      Flushing.step store limit now (.offering tally (item :: rest))
          ⟨s, buffer⟩ =
        (.requeueing tally (item :: rest), ⟨s, buffer⟩)

/- An item that is being appended is refused. -/
structure Refuses
    (store : Store α σ)
    (now : Instant)
    (item : α)
    (s : σ)
    (f : StoreFault) : Prop where
  /- Where it is published the caller may hear of the fault. -/
  published :
    ∀ limit policy buffer,
      Publishing.step store limit now (.appending item policy)
          ⟨s, buffer⟩ =
        (.done (Publishing.refusal policy f), ⟨s, buffer⟩)
  /- Where it is retried it is dropped. -/
  flushed :
    ∀ limit tally rest buffer,
      Flushing.step store limit now (.offering tally (item :: rest))
          ⟨s, buffer⟩ =
        (.offering { tally with dropped := tally.dropped + 1 } rest,
          ⟨s, buffer⟩)

/- An item waits after a fault of the connection. -/
theorem buffers_of_append
    (hAppend : store.append now item s = (.error f, s))
    (hConnection : f.isConnection = true) :
    Buffers store now item s where
  published := by
    intro limit policy buffer
    simp [Publishing.steps, Publishing.step, hAppend, hConnection]
  flushed := by
    intro limit tally rest buffer
    simp [Flushing.step, hAppend, hConnection]

/- It is refused after any other. -/
theorem refuses_of_append
    (hAppend : store.append now item s = (.error f, s))
    (hConnection : ¬ f.isConnection = true) :
    Refuses store now item s f where
  published := by
    intro limit policy buffer
    simp [Publishing.step, hAppend, hConnection]
  flushed := by
    intro limit tally rest buffer
    simp [Flushing.step, hAppend, hConnection]

/- An item that waits is not refused as well. -/
theorem buffers_iff
    (hAppend : store.append now item s = (.error f, s)) :
    Buffers store now item s ↔ f.isConnection = true := by
  constructor
  · intro hBuffers
    by_contra hConnection
    have hRefuses := refuses_of_append hAppend hConnection
    have hBoth :=
      (hBuffers.flushed .zero ⟨0, 0, 0⟩ [] (Buffer.create 0)).symm.trans
        (hRefuses.flushed .zero ⟨0, 0, 0⟩ [] (Buffer.create 0))
    cases hBoth
  · exact buffers_of_append hAppend

end Outbox

------------------------------------------------------------
-- Appends
------------------------------------------------------------

namespace BrokerStore

/- What the message of a record holds reads back. -/
theorem payload_read
    (now : Instant)
    (channel : String)
    (r : Record) :
    ∃ text,
      (message now channel r).payloadText? = some text ∧
        Json.Codec.texts.read text = .ok r.fields :=
  ⟨Fields.jsonOfTexts r.fields, Text.ofUtf8?_utf8 _,
    Json.Codec.texts_read_write r.fields⟩

/- No topic is built for a fault of the connection. -/
theorem isConnection_of_build
    {root channel subtopic : String}
    {f : Fault}
    (hBuild : Topic.build root channel subtopic = .error f) :
    f.isConnection = false := by
  unfold Topic.build at hBuild
  split_ifs at hBuild
  · cases hBuild
    rfl
  · cases hBuild
    rfl

/- A fault of the store is one of the connection if its cause is. -/
theorem isConnection_fault
    (f : Fault) :
    (fault f).isConnection = f.isConnection := by
  unfold fault
  split
  · rename_i hConnection
    rw [hConnection]
    rfl
  · rename_i hConnection
    rw [Bool.eq_false_iff.mpr hConnection]
    rfl

/- The broker after a message was sent under a subject. -/
def afterSending
    (subject : String)
    (m : Message)
    (c : LocalClient H ω) : LocalBroker H :=
  ((c.registry.matching subject).map (·.2.binding)).foldl
    (LocalBroker.enqueue m.encode)
    (c.state.transport.record subject m)

/-
  A channel has a name, but the broker cannot be reached: the
  client is closed, or the broker is not available.
-/
def Unreached
    (channel : String)
    (c : LocalClient H ω) : Prop :=
  channel ≠ "" ∧
    (c.state.closed = true ∨ c.state.transport.available = false)

/- A broker that is open and available is reached. -/
theorem not_unreached
    {channel : String}
    {c : LocalClient H ω}
    (hOpen : c.state.closed = false)
    (hThere : c.state.transport.available = true) :
    ¬ Unreached channel c := by
  rintro ⟨-, hClosed | hAway⟩
  · rw [hOpen] at hClosed
    cases hClosed
  · rw [hThere] at hAway
    cases hAway

/- How an append on a broker in memory may end. -/
inductive Appended
    (now : Instant)
    (channel : String)
    (r : Record)
    (c : LocalClient H ω) :
    Except StoreFault String → LocalClient H ω → Prop where
  /- The channel has no name. -/
  | unnamed
      {f : StoreFault}
      (hUnnamed : channel = "")
      (hFault : f.isConnection = false) :
      Appended now channel r c (.error f) c
  /- The broker cannot be reached. -/
  | unreached
      {f : StoreFault}
      (hUnreached : Unreached channel c)
      (hFault : f.isConnection = true) :
      Appended now channel r c (.error f) c
  /- The channel is not one. -/
  | malformed
      {f : StoreFault}
      {problem : Fault}
      (hOpen : c.state.closed = false)
      (hThere : c.state.transport.available = true)
      (hBuild :
        Topic.build c.state.root channel r.stream = .error problem)
      (hFault : f.isConnection = false) :
      Appended now channel r c (.error f) c
  /- The message was published. -/
  | published
      {id subject : String}
      (hOpen : c.state.closed = false)
      (hThere : c.state.transport.available = true)
      (hBuild :
        Topic.build c.state.root channel r.stream = .ok subject)
      (hPublish :
        Client.publish LocalBroker.transport channel
            (message now channel r) c =
          (.ok (),
            c.withTransport
              (afterSending subject (message now channel r) c))) :
      Appended now channel r c (.ok id)
        (c.withTransport (afterSending subject (message now channel r) c))

/- A channel with a name is that of the message of a record. -/
theorem checkFor_message
    (now : Instant)
    (channel : String)
    (r : Record) :
    (message now channel r).checkFor channel =
      if channel = "" then .error .emptyTopic else .ok () := by
  have hChannel : (message now channel r).channel = channel := rfl
  unfold Message.checkFor
  rw [hChannel]
  by_cases hEmpty : channel = ""
  · simp [hEmpty]
  · simp [hEmpty]

/- An append ends as the publication does. -/
theorem append_of_error
    {now : Instant}
    {channel : String}
    {r : Record}
    {c c' : LocalClient H ω}
    {f : Fault}
    (hPublish :
      Client.publish LocalBroker.transport channel
          (message now channel r) c =
        (.error f, c')) :
    append (Client.publisher LocalBroker.transport) channel now r c =
      (.error (fault f), c') := by
  simp only [append, Client.publisher, hPublish, outcome]

theorem append_of_ok
    {now : Instant}
    {channel : String}
    {r : Record}
    {c c' : LocalClient H ω}
    (hPublish :
      Client.publish LocalBroker.transport channel
          (message now channel r) c =
        (.ok (), c')) :
    append (Client.publisher LocalBroker.transport) channel now r c =
      (.ok (entryId r (message now channel r)), c') := by
  simp only [append, Client.publisher, hPublish, outcome]

/- An append where the channel has a name and the broker is there. -/
theorem appended_when_open
    {now : Instant}
    {channel : String}
    {r : Record}
    {c : LocalClient H ω}
    (hUsable : c.registry.poisoned = false)
    (hNamed : channel ≠ "")
    (hOpen : c.state.closed = false)
    (hThere : c.state.transport.available = true) :
    ∃ answer c',
      append (Client.publisher LocalBroker.transport) channel now r c =
        (answer, c') ∧
      Appended now channel r c answer c' := by
  have hCheck := checkFor_message now channel r
  rw [if_neg hNamed] at hCheck
  have hReady :
      LocalBroker.transport.ready c.state.transport = .ok () := by
    simp [LocalBroker.transport, LocalBroker.ready, hThere]
  cases hBuild : Topic.build c.state.root channel r.stream with
  | error problem =>
      have hSubject :
          Topic.build c.state.root channel
              (message now channel r).subtopic =
            .error problem := hBuild
      have hPublish :
          Client.publish LocalBroker.transport channel
              (message now channel r) c =
            (.error problem, c) := by
        simp only [Client.publish, hCheck, hOpen, hReady, hSubject]
        rfl
      refine ⟨_, _, append_of_error hPublish, .malformed hOpen hThere hBuild ?_⟩
      rw [isConnection_fault]
      exact isConnection_of_build hBuild
  | ok subject =>
      have hSubject :
          Topic.build c.state.root channel
              (message now channel r).subtopic =
            .ok subject := hBuild
      have hSend :
          LocalBroker.transport.send c.registry subject
              (message now channel r) c.state.transport =
            (.ok (), afterSending subject (message now channel r) c) := by
        simp [LocalBroker.transport, LocalBroker.send, Registry.route,
          hUsable, afterSending]
      have hPublish :
          Client.publish LocalBroker.transport channel
              (message now channel r) c =
            (.ok (),
              c.withTransport
                (afterSending subject (message now channel r) c)) := by
        simp only [Client.publish, hCheck, hOpen, hReady, hSubject, hSend]
        rfl
      exact ⟨_, _, append_of_ok hPublish,
        .published hOpen hThere hBuild hPublish⟩

/- Each append ends in one of these ways. -/
theorem appended_of_append
    {now : Instant}
    {channel : String}
    {r : Record}
    {c c' : LocalClient H ω}
    {answer : Except StoreFault String}
    (hUsable : c.registry.poisoned = false)
    (hAppend :
      append (Client.publisher LocalBroker.transport) channel now r c =
        (answer, c')) :
    Appended now channel r c answer c' := by
  have hCheck := checkFor_message now channel r
  by_cases hUnnamed : channel = ""
  · rw [if_pos hUnnamed] at hCheck
    rw [append_of_error (by simp only [Client.publish, hCheck]; rfl)]
      at hAppend
    cases hAppend
    exact .unnamed hUnnamed rfl
  · rw [if_neg hUnnamed] at hCheck
    cases hClosed : c.state.closed with
    | true =>
        rw [append_of_error
          (by simp only [Client.publish, hCheck, hClosed]; rfl)] at hAppend
        cases hAppend
        exact .unreached ⟨hUnnamed, .inl hClosed⟩ rfl
    | false =>
        cases hThere : c.state.transport.available with
        | false =>
            have hReady :
                LocalBroker.transport.ready c.state.transport =
                  .error (.connection "in-memory broker unavailable") := by
              simp [LocalBroker.transport, LocalBroker.ready, hThere]
            rw [append_of_error
              (by simp only [Client.publish, hCheck, hClosed, hReady]; rfl)]
              at hAppend
            cases hAppend
            exact .unreached ⟨hUnnamed, .inr hThere⟩ rfl
        | true =>
            rcases appended_when_open hUsable hUnnamed hClosed hThere with
              ⟨answer', c'', hSame, hAppended⟩
            rw [hSame] at hAppend
            cases hAppend
            exact hAppended

------------------------------------------------------------
-- What is sent
------------------------------------------------------------

/- What sending a message under a subject does to a broker. -/
structure Sent
    (subject : String)
    (m : Message)
    (t : Table (Subscription H Nat))
    (b b' : LocalBroker H) : Prop where
  /- The broker is as available as before. -/
  available : b'.available = b.available
  /- The message is kept once, if messages are kept. -/
  logged : b'.log = b.log.map (· ++ [(subject, m)])
  /- It goes once to each subscription that covers the subject. -/
  queued :
    ∀ {key v},
      t.get? key = some v →
      Topic.covers key.topic subject = true →
      b'.queues[v.binding]? =
        b.queues[v.binding]?.map (LocalBroker.Queue.push m.encode)
  /- It goes nowhere else. -/
  spared :
    ∀ {n : Nat},
      (∀ {key v},
        t.get? key = some v →
        Topic.covers key.topic subject = true →
        v.binding ≠ n) →
      b'.queues[n]? = b.queues[n]?

/- Only queues change where a message comes to wait. -/
theorem enqueue_frame
    (octets : Octets)
    (ns : List Nat)
    (b : LocalBroker H) :
    (ns.foldl (LocalBroker.enqueue octets) b).available = b.available ∧
      (ns.foldl (LocalBroker.enqueue octets) b).log = b.log := by
  induction ns generalizing b with
  | nil => exact ⟨rfl, rfl⟩
  | cons n rest ih => exact ih (b.enqueue octets n)

/- A message is sent to the queues of a session. -/
theorem sent_afterSending
    [DecidableEq H]
    {s : Session H ω}
    (hRegistered : s.Registered)
    (subject : String)
    (m : Message) :
    Sent subject m s.client.registry.table s.client.state.transport
      (afterSending subject m s.client) where
  available := (enqueue_frame _ _ _).1
  logged := (enqueue_frame _ _ _).2
  queued := by
    intro key v hFound hCovers
    have hOnly :
        ∀ {key' v'}, s.client.registry.table.get? key' = some v' →
          v'.binding = v.binding → key' = key ∧ v' = v := by
      intro key' v' hFound' hSame
      exact hRegistered.unique (hRegistered.present hFound')
        (hRegistered.present hFound) hSame
    have hOnce :=
      Table.count_bindings (fun other => Topic.covers other.topic subject)
        hOnly
    rw [if_pos ⟨hFound, hCovers⟩] at hOnce
    unfold afterSending Registry.matching
    rw [LocalBroker.queues_enqueue, hOnce]
    rfl
  spared := by
    intro n hOthers
    have hNever :
        ((s.client.registry.matching subject).map (·.2.binding)).count n =
          0 := by
      rw [List.count_eq_zero]
      intro hMember
      rcases List.mem_map.mp hMember with ⟨⟨key, v⟩, hEntry, hBinding⟩
      rcases List.mem_filter.mp hEntry with ⟨hEntry, hCovers⟩
      exact hOthers
        ((s.client.registry.table.mem_entries_iff key v).mp hEntry)
        hCovers hBinding
    unfold afterSending
    rw [LocalBroker.queues_enqueue, hNever]
    simp [LocalBroker.record]

------------------------------------------------------------
-- Appends in a session
------------------------------------------------------------

/-
  What an append of a record answers and does in a session on
  a broker with a given root.
-/
structure AppendsThrough
    [DecidableEq H]
    (handlers : Handlers H ω)
    (root : String)
    (s : Session H ω)
    (now : Instant)
    (channel : String)
    (r : Record)
    (answer : Except StoreFault String)
    (client' : LocalClient H (Watch H ω)) : Prop where
  /-
    The message bears the name of the stream, and its text reads
    back as the fields of the record.
  -/
  written :
    (message now channel r).subtopic = r.stream ∧
      ∃ text,
        (message now channel r).payloadText? = some text ∧
          Json.Codec.texts.read text = .ok r.fields
  /- It succeeds if the broker is reached and there is a topic. -/
  accepted_iff :
    (∃ id, answer = .ok id) ↔
      s.client.state.closed = false ∧
        s.client.state.transport.available = true ∧
        ∃ subject, Topic.build root channel r.stream = .ok subject
  /- Then the message went out once, under that topic. -/
  sent :
    ∀ {id},
      answer = .ok id →
      ∃ subject b,
        Topic.build root channel r.stream = .ok subject ∧
          client' = s.client.withTransport b ∧
          Sent subject (message now channel r) s.client.registry.table
            s.client.state.transport b
  /-
    It is received by all whose subscriptions cover the topic, if
    its lengths are below the limit of the wire form, as are all
    lengths of what a memory can hold.
  -/
  received :
    ∀ {id},
      answer = .ok id →
      (message now channel r).Fits →
      ∃ s',
        Session.Step handlers s s' ∧
          s'.client = client' ∧
          s'.taken =
            s.taken ++
              [⟨channel, message now channel r,
                s.client.registry.table⟩] ∧
          ∀ {subject key v},
            Topic.build root channel r.stream = .ok subject →
            s.client.registry.table.get? key = some v →
            Topic.covers key.topic subject = true →
            Session.Receives handlers root s s' key v
              (message now channel r)
  /- An append that fails does nothing. -/
  faulted :
    ∀ {f},
      answer = .error f →
      client' = s.client ∧
        (f.isConnection = true ↔ Unreached channel s.client)
  /- The record waits if the broker could not be reached. -/
  buffered_iff :
    ∀ {f},
      answer = .error f →
      (Outbox.Buffers (store (Client.publisher LocalBroker.transport)
            channel) now r s.client ↔
        Unreached channel s.client)
  /- It is refused if there was something else. -/
  refused :
    ∀ {f},
      answer = .error f →
      ¬ Unreached channel s.client →
      Outbox.Refuses (store (Client.publisher LocalBroker.transport)
        channel) now r s.client f

variable [DecidableEq H]
variable {handlers : Handlers H ω}
variable {root : String}
variable {s : Session H ω}
variable {now : Instant}
variable {channel : String}
variable {r : Record}
variable {client' : LocalClient H (Watch H ω)}

/- An append that failed. -/
theorem AppendsThrough.of_error
    {f : StoreFault}
    (hAppend :
      append (Client.publisher LocalBroker.transport) channel now r
          s.client =
        (.error f, s.client))
    (hConnection : f.isConnection = true ↔ Unreached channel s.client)
    (hNot :
      ¬ (s.client.state.closed = false ∧
        s.client.state.transport.available = true ∧
        ∃ subject, Topic.build root channel r.stream = .ok subject)) :
    AppendsThrough handlers root s now channel r (.error f) s.client where
  written := ⟨rfl, payload_read now channel r⟩
  accepted_iff := by
    constructor
    · rintro ⟨id, hOk⟩
      cases hOk
    · intro hAll
      exact absurd hAll hNot
  sent := by
    intro id hOk
    cases hOk
  received := by
    intro id hOk
    cases hOk
  faulted := by
    intro f' hError
    cases hError
    exact ⟨rfl, hConnection⟩
  buffered_iff := by
    intro f' hError
    rw [← hConnection]
    exact Outbox.buffers_iff hAppend
  refused := by
    intro f' hError hReached
    cases hError
    rw [← hConnection] at hReached
    exact Outbox.refuses_of_append hAppend hReached

/- An append that succeeded. -/
theorem AppendsThrough.of_published
    {id subject : String}
    (hSound : s.Sound handlers root)
    (hOpen : s.client.state.closed = false)
    (hThere : s.client.state.transport.available = true)
    (hBuild : Topic.build root channel r.stream = .ok subject)
    (hPublish :
      Client.publish LocalBroker.transport channel
          (message now channel r) s.client =
        (.ok (),
          s.client.withTransport
            (afterSending subject (message now channel r) s.client))) :
    AppendsThrough handlers root s now channel r (.ok id)
      (s.client.withTransport
        (afterSending subject (message now channel r) s.client)) where
  written := ⟨rfl, payload_read now channel r⟩
  accepted_iff := by
    constructor
    · intro _
      exact ⟨hOpen, hThere, subject, hBuild⟩
    · intro _
      exact ⟨id, rfl⟩
  sent := by
    intro id' _
    exact ⟨subject, _, hBuild, rfl,
      sent_afterSending hSound.registered subject _⟩
  received := by
    intro id' _ hFits
    have hStep : Session.Step handlers s _ :=
      .publish channel hFits hPublish
    refine ⟨_, hStep, rfl, rfl, ?_⟩
    intro subject' key v hBuild' hFound hCovers
    rw [hBuild] at hBuild'
    cases hBuild'
    have hReaches :
        Publication.reaches root key v
            ⟨channel, message now channel r,
              s.client.registry.table⟩ =
          true := by
      have hSubject :
          Publication.subject? root
              ⟨channel, message now channel r,
                s.client.registry.table⟩ =
            some subject :=
        congrArg Except.toOption hBuild
      unfold Publication.reaches
      rw [hSubject]
      simp [hFound, hCovers]
    exact (hSound.step hStep).receives List.prefix_rfl hReaches
  faulted := by
    intro f hError
    cases hError
  buffered_iff := by
    intro f hError
    cases hError
  refused := by
    intro f hError
    cases hError

/-
  An append, in any session on a broker in memory: under any
  channel, and after any calls, deliveries and outages.
-/
theorem appends_through
    {recording : Bool}
    {world : ω}
    {answer : Except StoreFault String}
    (hReachable :
      Session.Reachable handlers (Session.start root recording world) s)
    (now : Instant)
    (channel : String)
    (r : Record)
    (hAppend :
      append (Client.publisher LocalBroker.transport) channel now r
          s.client =
        (answer, client')) :
    AppendsThrough handlers root s now channel r answer client' := by
  have hSound := hReachable.sound
  cases appended_of_append hSound.usable hAppend with
  | unnamed hUnnamed hFault =>
      apply AppendsThrough.of_error hAppend
      · rw [hFault]
        simp [Unreached, hUnnamed]
      · rintro ⟨-, -, subject, hBuild⟩
        rw [hUnnamed] at hBuild
        cases hBuild
  | unreached hUnreached hFault =>
      apply AppendsThrough.of_error hAppend
      · rw [hFault]
        simp [hUnreached]
      · rintro ⟨hOpen, hThere, -⟩
        exact not_unreached hOpen hThere hUnreached
  | malformed hOpen hThere hBuild hFault =>
      rw [hSound.root_eq] at hBuild
      apply AppendsThrough.of_error hAppend
      · rw [hFault]
        simp [not_unreached hOpen hThere]
      · rintro ⟨-, -, subject, hBuild'⟩
        rw [hBuild] at hBuild'
        cases hBuild'
  | published hOpen hThere hBuild hPublish =>
      rw [hSound.root_eq] at hBuild
      exact .of_published hSound hOpen hThere hBuild hPublish

/- A record of a stream, with a quote in one of its values. -/
def noted : Record where
  stream := "iot/bootstrap"
  maxLength := 0
  fields := Dict.empty.insert "thing" "a\"b"

theorem noted_fits :
    (message ⟨7⟩ eventsChannel noted).Fits := by
  constructor
  · decide
  · decide
  · decide
  · decide
  · decide

/-
  A record is appended while messages still wait in a queue,
  and comes to the handler behind them.
-/
theorem greeted_appends_through :
    ∃ id client' later,
      append (Client.publisher LocalBroker.transport) eventsChannel ⟨7⟩
            noted
            (Session.greeted [] [Session.greeting, Session.farewell]).client =
          (.ok id, client') ∧
        AppendsThrough Session.busy "channels"
          (Session.greeted [] [Session.greeting, Session.farewell]) ⟨7⟩
          eventsChannel noted (.ok id) client' ∧
        Session.Reachable Session.busy
          (Session.start "channels" false ()) later ∧
        ((), message ⟨7⟩ eventsChannel noted) ∈ later.handedTo 0 := by
  have hThrough :=
    appends_through Session.reachable_greeted ⟨7⟩ eventsChannel noted rfl
  have hBuild :
      Topic.build "channels" eventsChannel noted.stream =
        .ok "channels.events.iot.bootstrap" := by
    decide
  rcases hThrough.accepted_iff.mpr ⟨rfl, rfl, _, hBuild⟩ with ⟨id, hOk⟩
  rcases hThrough.received hOk noted_fits with
    ⟨s', hStep, -, -, hReceived⟩
  have hReceives :
      Session.Receives Session.busy "channels" _ s' Session.listening
        ⟨(), 0⟩ (message ⟨7⟩ eventsChannel noted) :=
    hReceived hBuild (by decide) (by decide)
  have hSteady : ¬ Session.busy.Breaks () := by
    rintro ⟨m, w, hBroken⟩
    cases hBroken
  rcases hReceives.delivered .start hSteady with
    ⟨later, hLater, hMember⟩
  refine ⟨id, _, later, Prod.ext hOk rfl, hOk ▸ hThrough, ?_, hMember⟩
  exact (Session.reachable_greeted.step hStep).trans hLater

end BrokerStore

end Courier
