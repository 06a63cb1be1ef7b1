import Courier.Proofs.Pool
import Courier.Proofs.Transport.Session

/-
  Laws of the queues of a broker in memory.

  What a queue was sent is what it has passed to its handler,
  followed by what still waits in it.  Messages wait in their
  wire form, from which each of them is read back whole.  A
  handler that broke down has had a part of what was sent.

  Key definitions include:
    * `LocalBroker.Queue.Carries`

  Main statements:
    * `LocalBroker.Queue.Carries.push`
    * `LocalBroker.Queue.Carries.deliver`
    * `LocalBroker.queues_send`
-/

namespace Courier

open Registration

/- A handler can break down, at some message in some world. -/
def Handlers.Breaks
    {H ω : Type}
    (handlers : Handlers H ω)
    (handler : H) : Prop :=
  ∃ m w, (handlers.handle handler m w).1 = .broken

/-
  A handler under watch is passed the message whose wire form
  it is to receive, and only that, also if it fails.
-/
theorem Handlers.receive_watched
    {H ω : Type}
    (handlers : Handlers H ω)
    (handler : H)
    {m : Message}
    (hFits : m.Fits)
    (w : Watch H ω) :
    handlers.watched.receive handler m.encode w =
      (decide ((handlers.handle handler m w.world).1 ≠ .broken),
        { world := (handlers.handle handler m w.world).2
          seen := w.seen ++ [(handler, m)] }) := by
  unfold Handlers.receive
  rw [Message.decode_encode hFits]
  simp only [Handlers.watched]
  cases (handlers.handle handler m w.world).1 with
  | ok => rfl
  | failed detail => rfl
  | broken => rfl

namespace LocalBroker

variable {H ω : Type}

------------------------------------------------------------
-- What a queue carries
------------------------------------------------------------

/-
  A queue has passed on all that it was sent but for what
  waits, or some of that, if its handler broke down.
-/
inductive Queue.Carries
    (handlers : Handlers H ω)
    (q : Queue H) : List (H × Message) → List Message → Prop where
  | running
      {passed pending : List Message}
      (hRunning : q.running = true)
      (hWaiting : q.waiting = pending.map Message.encode)
      (hFits : ∀ m ∈ pending, m.Fits) :
      Carries handlers q (passed.map (q.handler, ·)) (passed ++ pending)
  | stopped
      {passed lost : List Message}
      (hStopped : q.running = false)
      (hBreaks : handlers.Breaks q.handler)
      (hWaiting : q.waiting = []) :
      Carries handlers q (passed.map (q.handler, ·)) (passed ++ lost)

namespace Queue

variable {handlers : Handlers H ω}
variable {q : Queue H}
variable {given : List (H × Message)}
variable {sent : List Message}

/- What was passed on came first of all that was sent. -/
theorem Carries.given_prefix
    (hCarries : q.Carries handlers given sent) :
    given <+: sent.map (q.handler, ·) := by
  cases hCarries with
  | @running passed pending hRunning hWaiting hFits =>
      rw [List.map_append]
      exact List.prefix_append _ _
  | @stopped passed lost hStopped hBreaks hWaiting =>
      rw [List.map_append]
      exact List.prefix_append _ _

/- A queue that runs and has drained has passed all on. -/
theorem Carries.given_eq
    (hCarries : q.Carries handlers given sent)
    (hDrained : q.waiting = [])
    (hRunning : q.running = true) :
    given = sent.map (q.handler, ·) := by
  cases hCarries with
  | @running passed pending hRunning hWaiting hFits =>
      have hNone : pending = [] := by
        rw [hDrained] at hWaiting
        exact List.map_eq_nil_iff.mp hWaiting.symm
      rw [hNone, List.append_nil]
  | stopped hStopped hBreaks hWaiting =>
      rw [hRunning] at hStopped
      exact absurd hStopped nofun

/- A queue runs as long as its handler does not break down. -/
theorem Carries.running_of_not_breaks
    (hCarries : q.Carries handlers given sent)
    (hSteady : ¬ handlers.Breaks q.handler) :
    q.running = true := by
  cases hCarries with
  | running hRunning hWaiting hFits => exact hRunning
  | stopped hStopped hBreaks hWaiting => exact absurd hBreaks hSteady

/- The queue of a new subscription has nothing to carry. -/
theorem carries_nil
    (handler : H)
    (attached : Bool) :
    Carries handlers ⟨handler, [], attached, true⟩ [] [] := by
  have hNothing :
      Carries handlers ⟨handler, [], attached, true⟩
        (([] : List Message).map (handler, ·)) ([] ++ []) :=
    .running rfl rfl nofun
  exact hNothing

/- A queue that is detached carries what it carried. -/
theorem Carries.detach
    (hCarries : q.Carries handlers given sent)
    (attached : Bool) :
    Carries handlers { q with attached := attached } given sent := by
  cases hCarries with
  | running hRunning hWaiting hFits =>
      exact .running hRunning hWaiting hFits
  | stopped hStopped hBreaks hWaiting =>
      exact .stopped hStopped hBreaks hWaiting

/- An attached queue is sent one more message. -/
theorem Carries.push
    (hCarries : q.Carries handlers given sent)
    (hAttached : q.attached = true)
    {m : Message}
    (hFits : m.Fits) :
    (q.push m.encode).Carries handlers given (sent ++ [m]) := by
  cases hCarries with
  | @running passed pending hRunning hWaiting hPending =>
      have hPush :
          q.push m.encode =
            { q with waiting := (pending ++ [m]).map Message.encode } := by
        simp [Queue.push, hAttached, hRunning, hWaiting]
      have hAll : ∀ other ∈ pending ++ [m], other.Fits := by
        intro other hOther
        rcases List.mem_append.mp hOther with hOld | hNew
        · exact hPending other hOld
        · rw [List.mem_singleton.mp hNew]
          exact hFits
      rw [hPush, List.append_assoc]
      exact .running hRunning rfl hAll
  | @stopped passed lost hStopped hBreaks hWaiting =>
      have hPush : q.push m.encode = q := by
        simp [Queue.push, hStopped]
      rw [hPush, List.append_assoc]
      exact .stopped hStopped hBreaks hWaiting

/- Sending to a queue leaves its handler, and whether it is attached. -/
theorem push_frame
    (octets : Octets)
    (q : Queue H) :
    (q.push octets).handler = q.handler ∧
      (q.push octets).attached = q.attached := by
  unfold Queue.push
  split
  · exact ⟨rfl, rfl⟩
  · exact ⟨rfl, rfl⟩

/- A queue is sent a message some times, if it is attached at all. -/
theorem Carries.pushes
    (hCarries : q.Carries handlers given sent)
    {m : Message}
    (hFits : m.Fits)
    {times : Nat}
    (hAttached : 0 < times → q.attached = true) :
    Carries handlers ((Queue.push m.encode)^[times] q) given
      (sent ++ List.replicate times m) := by
  induction times generalizing q sent with
  | zero => simpa using hCarries
  | succ times ih =>
      have hNow : q.attached = true := hAttached (Nat.succ_pos times)
      have hLater :
          0 < times → (q.push m.encode).attached = true := by
        intro _
        rw [(push_frame m.encode q).2]
        exact hNow
      have hRest := ih (hCarries.push hNow hFits) hLater
      rw [List.append_assoc] at hRest
      exact hRest

/-
  A delivery passes the first message that waits to the
  handler, or none if none waits.
-/
theorem Carries.deliver
    (hCarries : q.Carries handlers given sent)
    (w : Watch H ω) :
    ∃ passed,
      (q.deliver handlers.watched w).2.seen = w.seen ++ passed ∧
      (q.deliver handlers.watched w).1.Carries handlers
        (given ++ passed) sent := by
  cases hCarries with
  | @running passed pending hRunning hWaiting hFits =>
      cases pending with
      | nil =>
          have hNone : q.deliver handlers.watched w = (q, w) := by
            simp [Queue.deliver, hWaiting]
          refine ⟨[], ?_, ?_⟩
          · simp [hNone]
          · rw [hNone, List.append_nil]
            exact .running hRunning hWaiting hFits
      | cons m rest =>
          have hReceive :=
            handlers.receive_watched q.handler
              (hFits m List.mem_cons_self) w
          have hPassed :
              passed.map (q.handler, ·) ++ [(q.handler, m)] =
                (passed ++ [m]).map (q.handler, ·) := by
            rw [List.map_append]
            rfl
          have hRest : ∀ other ∈ rest, other.Fits := by
            intro other hOther
            exact hFits other (List.mem_cons_of_mem m hOther)
          refine ⟨[(q.handler, m)], ?_⟩
          rw [hPassed, List.append_cons passed m rest]
          unfold Queue.deliver
          simp only [hWaiting, List.map_cons, hReceive]
          split
          · exact ⟨rfl, .running hRunning rfl hRest⟩
          · rename_i hBroken
            have hBreaks : handlers.Breaks q.handler := by
              refine ⟨m, w.world, ?_⟩
              simpa using hBroken
            exact ⟨rfl, .stopped rfl hBreaks rfl⟩
  | @stopped passed lost hStopped hBreaks hWaiting =>
      have hNone : q.deliver handlers.watched w = (q, w) := by
        simp [Queue.deliver, hWaiting]
      refine ⟨[], ?_, ?_⟩
      · simp [hNone]
      · rw [hNone, List.append_nil]
        exact .stopped hStopped hBreaks hWaiting

/- So does delivering from it. -/
theorem deliver_frame
    (handlers : Handlers H ω)
    (q : Queue H)
    (w : ω) :
    (q.deliver handlers w).1.handler = q.handler ∧
      (q.deliver handlers w).1.attached = q.attached := by
  unfold Queue.deliver
  split
  · exact ⟨rfl, rfl⟩
  · dsimp only
    split
    · exact ⟨rfl, rfl⟩
    · exact ⟨rfl, rfl⟩

end Queue

------------------------------------------------------------
-- What queues keep
------------------------------------------------------------

/- No queue is lost, and each of them keeps what is asked for. -/
def Keeps
    {α : Type}
    (f : Queue H → α)
    (before after : List (Queue H)) : Prop :=
  ∀ (n : Nat) q, before[n]? = some q →
    ∃ q', after[n]? = some q' ∧ f q' = f q

section Keeps

variable {α : Type}
variable {f : Queue H → α}

theorem keeps_refl
    (f : Queue H → α)
    (queues : List (Queue H)) :
    Keeps f queues queues := by
  intro n q hAt
  exact ⟨q, hAt, rfl⟩

/- A new queue leaves the others alone. -/
theorem keeps_append
    (f : Queue H → α)
    (queues : List (Queue H))
    (q : Queue H) :
    Keeps f queues (queues ++ [q]) := by
  intro n old hAt
  refine ⟨old, ?_, rfl⟩
  rw [List.getElem?_append_left]
  · exact hAt
  · exact (List.getElem?_eq_some_iff.mp hAt).1

/- A change of one queue that keeps what is asked for. -/
theorem keeps_modify
    (queues : List (Queue H))
    (n : Nat)
    {g : Queue H → Queue H}
    (hKept : ∀ q, f (g q) = f q) :
    Keeps f queues (queues.modify n g) := by
  intro m q hAt
  rw [List.getElem?_modify, hAt]
  by_cases hSame : n = m
  · exact ⟨g q, by simp [hSame], hKept q⟩
  · exact ⟨q, by simp [hSame], rfl⟩

/- A queue takes the place of one that had what is asked for. -/
theorem keeps_set
    {queues : List (Queue H)}
    {n : Nat}
    {q q' : Queue H}
    (hAt : queues[n]? = some q)
    (hKept : f q' = f q) :
    Keeps f queues (queues.set n q') := by
  intro m old hOld
  by_cases hSame : n = m
  · subst hSame
    have hIn := (List.getElem?_eq_some_iff.mp hAt).1
    refine ⟨q', List.getElem?_set_self hIn, ?_⟩
    rw [hAt] at hOld
    rw [← Option.some.inj hOld]
    exact hKept
  · refine ⟨old, ?_, rfl⟩
    rw [List.getElem?_set_ne hSame]
    exact hOld

/- Messages that are sent leave what is asked for. -/
theorem keeps_push
    {queues queues' : List (Queue H)}
    {octets : Octets}
    {times : Nat → Nat}
    (hSent :
      ∀ n, queues'[n]? = queues[n]?.map (Queue.push octets)^[times n])
    (hKept : ∀ q, f (q.push octets) = f q) :
    Keeps f queues queues' := by
  intro n q hAt
  refine ⟨(Queue.push octets)^[times n] q, ?_, ?_⟩
  · rw [hSent, hAt]
    rfl
  · induction times n with
    | zero => rfl
    | succ count ih =>
        rw [Function.iterate_succ_apply', hKept]
        exact ih

end Keeps

------------------------------------------------------------
-- Subscribing
------------------------------------------------------------

/- A queue is made if a thread can be started for it. -/
theorem bind_started
    {b : LocalBroker H}
    (hStarts : b.refusal = none)
    (key : Key)
    (handler : H) :
    bind key handler b = (.ok b.queues.length, b.extend handler) := by
  simp [bind, hStarts]

/- Nothing changes if no thread can be started. -/
theorem bind_refused
    {b : LocalBroker H}
    {detail : String}
    (hRefusal : b.refusal = some detail)
    (key : Key)
    (handler : H) :
    bind key handler b =
      (.error
        (.connection ("failed to spawn delivery thread: " ++ detail)),
        b) := by
  simp [bind, hRefusal]

------------------------------------------------------------
-- Sending
------------------------------------------------------------

/- Each queue takes a message as often as its number is given. -/
theorem queues_enqueue
    (octets : Octets)
    (ns : List Nat)
    (b : LocalBroker H)
    (n : Nat) :
    (ns.foldl (enqueue octets) b).queues[n]? =
      b.queues[n]?.map (Queue.push octets)^[ns.count n] := by
  have hSame :
      ns.foldl (fun queues n => queues.modify n (Queue.push octets))
          b.queues =
        (ns.foldl (enqueue octets) b).queues :=
    List.foldl_hom LocalBroker.queues fun _ _ => rfl
  rw [← hSame, Pool.getElem?_foldl_modify]

/- The queues that a publication goes to. -/
def targets
    (root : String)
    (p : Publication H) : List Nat :=
  match p.subject? root with
  | none => []
  | some subject =>
      (p.table.entries.filter fun entry =>
        Topic.covers entry.1.topic subject).map (·.2.binding)

/-
  A message is refused and nothing happens, or it is sent to
  the queues of all subscriptions that cover its subject.
-/
theorem publish_cases
    {topic : String}
    {m : Message}
    {result : Except Fault Unit}
    {c c' : LocalClient H ω}
    (hUsable : c.registry.poisoned = false)
    (hPublish : Client.publish transport topic m c = (result, c')) :
    ((∃ fault, result = .error fault) ∧ c' = c) ∨
      result = .ok () ∧
      ∃ b : LocalBroker H,
        c' = c.withTransport b ∧
        ∀ n, b.queues[n]? =
          c.state.transport.queues[n]?.map
            (Queue.push m.encode)^[
              (targets c.state.root
                ⟨topic, m, c.registry.table⟩).count n] := by
  unfold Client.publish at hPublish
  split at hPublish
  · rename_i fault _
    cases hPublish
    exact Or.inl ⟨⟨fault, rfl⟩, rfl⟩
  · split at hPublish
    · cases hPublish
      exact Or.inl ⟨⟨.closed, rfl⟩, rfl⟩
    · split at hPublish
      · rename_i fault _
        cases hPublish
        exact Or.inl ⟨⟨fault, rfl⟩, rfl⟩
      · split at hPublish
        · rename_i fault _
          cases hPublish
          exact Or.inl ⟨⟨fault, rfl⟩, rfl⟩
        · rename_i subject hSubject
          have hRoute :
              c.registry.route subject =
                .ok (c.registry.matching subject) := by
            simp [Registry.route, hUsable]
          have hTargets :
              targets c.state.root ⟨topic, m, c.registry.table⟩ =
                (c.registry.matching subject).map (·.2.binding) := by
            simp [targets, Publication.subject?, hSubject,
              Except.toOption, Registry.matching]
          simp only [transport, send, hRoute] at hPublish
          cases hPublish
          refine Or.inr ⟨rfl, _, rfl, ?_⟩
          intro n
          rw [hTargets, queues_enqueue]
          rfl

/- A delivery changes one queue, or nothing if there is none. -/
theorem deliver_cases
    (handlers : Handlers H ω)
    (n : Nat)
    (c : LocalClient H ω) :
    (c.state.transport.queues[n]? = none ∧ deliver handlers n c = c) ∨
      ∃ q b,
        c.state.transport.queues[n]? = some q ∧
        b.queues =
          c.state.transport.queues.set n
            (q.deliver handlers c.state.world).1 ∧
        deliver handlers n c =
          (c.withTransport b).withWorld
            (q.deliver handlers c.state.world).2 := by
  cases hAt : c.state.transport.queues[n]? with
  | none =>
      have hNone : deliver handlers n c = c := by
        simp only [deliver, hAt]
      exact Or.inl ⟨rfl, hNone⟩
  | some q =>
      let b := c.state.transport
      let q' := (q.deliver handlers c.state.world).1
      refine Or.inr
        ⟨q, { b with queues := b.queues.set n q' }, rfl, rfl, ?_⟩
      simp only [deliver, hAt]
      rfl

/- Publishing and delivering leave the subscriptions alone. -/
theorem publish_frame
    {topic : String}
    {m : Message}
    {result : Except Fault Unit}
    {c c' : LocalClient H ω}
    (hUsable : c.registry.poisoned = false)
    (hPublish : Client.publish transport topic m c = (result, c')) :
    c'.registry = c.registry ∧
      c'.state.root = c.state.root ∧
      c'.state.world = c.state.world := by
  rcases publish_cases hUsable hPublish with
    ⟨-, rfl⟩ | ⟨-, b, rfl, -⟩
  · exact ⟨rfl, rfl, rfl⟩
  · exact ⟨rfl, rfl, rfl⟩

theorem deliver_frame
    (handlers : Handlers H ω)
    (n : Nat)
    (c : LocalClient H ω) :
    (deliver handlers n c).registry = c.registry ∧
      (deliver handlers n c).state.root = c.state.root := by
  rcases deliver_cases handlers n c with
    ⟨-, hNone⟩ | ⟨q, b, -, -, hSome⟩
  · rw [hNone]
    exact ⟨rfl, rfl⟩
  · rw [hSome]
    exact ⟨rfl, rfl⟩

/- The queues keep what neither sending nor delivering changes. -/
theorem keeps_publish
    {α : Type}
    {f : Queue H → α}
    {topic : String}
    {m : Message}
    {result : Except Fault Unit}
    {c c' : LocalClient H ω}
    (hUsable : c.registry.poisoned = false)
    (hPublish :
      Client.publish transport topic m c = (result, c'))
    (hKept : ∀ octets q, f (Queue.push octets q) = f q) :
    Keeps f
      c.state.transport.queues c'.state.transport.queues := by
  rcases publish_cases hUsable hPublish with
    ⟨-, rfl⟩ | ⟨-, b, rfl, hSent⟩
  · exact keeps_refl f _
  · exact keeps_push hSent (hKept m.encode)

theorem keeps_deliver
    {α : Type}
    {f : Queue H → α}
    (handlers : Handlers H ω)
    (n : Nat)
    (c : LocalClient H ω)
    (hKept : ∀ q w, f (Queue.deliver handlers q w).1 = f q) :
    Keeps f
      c.state.transport.queues
      (deliver handlers n c).state.transport.queues := by
  rcases deliver_cases handlers n c with
    ⟨-, hNone⟩ | ⟨q, b, hAt, hQueues, hSome⟩
  · rw [hNone]
    exact keeps_refl f _
  · rw [hSome]
    change Keeps f _ b.queues
    rw [hQueues]
    exact keeps_set hAt (hKept q _)

end LocalBroker

end Courier
