import Courier.Proofs.Transport.Delivery

/-
  This file follows sessions on a broker in memory further.
  Nothing that was taken is forgotten, and any queue can be
  drained by deliveries.  A message that was taken for a
  registration is passed on, after all those taken before it,
  by the time that the queue has drained.

  Key definitions include:
    * `Session.Receives`

  Main statements:
    * `Session.Reachable.taken_prefix`
    * `Session.exists_drained`
    * `Session.expected_further`
    * `Session.Sound.passed_on_when_drained`
    * `Session.Sound.receives`
-/

namespace Courier

open Registration

variable {H ω : Type}

/- A delivery takes at least one message out of the queue. -/
theorem LocalBroker.Queue.deliver_shortens
    (handlers : Handlers H ω)
    {q : Queue H}
    (hWaits : q.waiting ≠ [])
    (w : ω) :
    (q.deliver handlers w).1.waiting.length < q.waiting.length := by
  unfold Queue.deliver
  cases hWaiting : q.waiting with
  | nil => exact absurd hWaiting hWaits
  | cons octets rest =>
      dsimp only
      split
      · exact Nat.lt_succ_self rest.length
      · exact Nat.succ_pos rest.length

namespace Session

variable [DecidableEq H]
variable {handlers : Handlers H ω}
variable {s s' later : Session H ω}

------------------------------------------------------------
-- Further on
------------------------------------------------------------

/- What comes after what comes after comes after. -/
theorem Reachable.trans
    (hFirst : Reachable handlers s s')
    (hSecond : Reachable handlers s' later) :
    Reachable handlers s later := by
  induction hSecond with
  | start => exact hFirst
  | step hEarlier hStep ih => exact ih.step hStep

/- Messages that were taken stay taken. -/
theorem Step.taken_prefix
    (hStep : Step handlers s s') :
    s.taken <+: s'.taken := by
  cases hStep with
  | ask request => exact List.prefix_rfl
  | advance i hAt hStep => exact List.prefix_rfl
  | publish topic hFits hPublish => exact List.prefix_append _ _
  | setAvailable available => exact List.prefix_rfl
  | setRefusal refusal => exact List.prefix_rfl
  | deliver n hDeliver => exact List.prefix_rfl
  | reorder hReordered => exact List.prefix_rfl

theorem Reachable.taken_prefix
    (hReachable : Reachable handlers s later) :
    s.taken <+: later.taken := by
  induction hReachable with
  | start => exact List.prefix_rfl
  | step hEarlier hStep ih => exact ih.trans hStep.taken_prefix

/- A session that is sound stays so. -/
theorem Sound.further
    {root : String}
    (hSound : s.Sound handlers root)
    (hReachable : Reachable handlers s later) :
    later.Sound handlers root := by
  induction hReachable with
  | start => exact hSound
  | step hEarlier hStep ih => exact ih.step hStep

------------------------------------------------------------
-- Deliveries from one queue
------------------------------------------------------------

/- Where something waits, a delivery leaves less of it. -/
theorem exists_shorter
    (handlers : Handlers H ω)
    {n : Nat}
    {q : LocalBroker.Queue H}
    (hAt : s.queues[n]? = some q)
    (hWaits : q.waiting ≠ []) :
    ∃ s' q',
      Step handlers s s' ∧
      s'.queues[n]? = some q' ∧
      q'.waiting.length < q.waiting.length := by
  rcases LocalBroker.deliver_cases handlers.watched n s.client with
    ⟨hNone, -⟩ | ⟨q₀, b, hAt₀, hQueues, hDeliver⟩
  · unfold queues at hAt
    rw [hNone] at hAt
    cases hAt
  · unfold queues at hAt
    rw [hAt₀] at hAt
    cases hAt
    have hIn := (List.getElem?_eq_some_iff.mp hAt₀).1
    refine ⟨_, _, .deliver n hDeliver, ?_,
      q.deliver_shortens handlers.watched hWaits s.client.state.world⟩
    change b.queues[n]? = _
    rw [hQueues, List.getElem?_set_self hIn]

/- Deliveries from a queue go on until nothing waits in it. -/
theorem exists_drained
    (handlers : Handlers H ω)
    {n : Nat}
    {q : LocalBroker.Queue H}
    (hAt : s.queues[n]? = some q) :
    ∃ later q',
      Reachable handlers s later ∧
      later.queues[n]? = some q' ∧
      q'.waiting = [] := by
  generalize hCount : q.waiting.length = count
  induction count using Nat.strong_induction_on generalizing s q with
  | _ count ih =>
      by_cases hWaits : q.waiting = []
      · exact ⟨s, q, .start, hAt, hWaits⟩
      · rcases exists_shorter handlers hAt hWaits with
          ⟨s', q', hStep, hAt', hShorter⟩
        rcases ih _ (hCount ▸ hShorter) hAt' rfl with
          ⟨later, last, hLater, hLast, hDrained⟩
        have hFirst : Reachable handlers s s' := .step .start hStep
        exact ⟨later, last, hFirst.trans hLater, hLast, hDrained⟩

------------------------------------------------------------
-- Messages that were taken
------------------------------------------------------------

section Taken

variable {root : String}
variable {key : Key}
variable {v : Subscription H Nat}
variable {p : Publication H}

/- What was expected before a message stays ahead of it. -/
theorem expected_further
    (hTaken : s.taken ++ [p] <+: later.taken)
    (hReaches : p.reaches root key v = true) :
    s.expected root key v ++ [p.message] <+:
      later.expected root key v := by
  have hFiltered := (hTaken.filter (·.reaches root key v)).map (·.message)
  rw [List.filter_append, List.filter_singleton, hReaches,
    List.map_append] at hFiltered
  exact hFiltered

/-
  A message that was taken for a registration: its handler runs
  unless it broke down, and has been passed the message after
  all those before it once nothing waits in the queue.
-/
theorem Sound.passed_on_when_drained
    (hSound : later.Sound handlers root)
    (hTaken : s.taken ++ [p] <+: later.taken)
    (hReaches : p.reaches root key v = true) :
    ∃ q,
      later.queues[v.binding]? = some q ∧
      (¬ handlers.Breaks v.handler → q.running = true) ∧
      (q.waiting = [] →
        q.running = true →
        (s.expected root key v ++ [p.message]).map (v.handler, ·) <+:
          later.handedTo v.binding) := by
  have hFound : p.table.get? key = some v := by
    unfold Publication.reaches at hReaches
    exact of_decide_eq_true (Bool.and_eq_true_iff.mp hReaches).1
  have hMember : p ∈ later.taken :=
    hTaken.subset (List.mem_append_right _ List.mem_cons_self)
  have hMade := hSound.registered.past hMember hFound
  rcases hSound.registered.queued hMade with ⟨q, hAt, hHandler⟩
  have hCarries := hSound.carried.held hAt
  rw [hSound.registered.sentTo_eq_expected root hMade] at hCarries
  refine ⟨q, hAt, ?_, ?_⟩
  · intro hSteady
    rw [← hHandler] at hSteady
    exact hCarries.running_of_not_breaks hSteady
  · intro hDrained hRunning
    rw [hCarries.given_eq hDrained hRunning, hHandler]
    exact (expected_further hTaken hReaches).map _

/- So the handler can be passed the message, if it never breaks down. -/
theorem Sound.exists_passed_on
    (hSound : s'.Sound handlers root)
    (hTaken : s.taken ++ [p] <+: s'.taken)
    (hReaches : p.reaches root key v = true)
    (hSteady : ¬ handlers.Breaks v.handler) :
    ∃ later,
      Reachable handlers s' later ∧
      (v.handler, p.message) ∈ later.handedTo v.binding := by
  rcases hSound.passed_on_when_drained hTaken hReaches with ⟨q, hAt, -, -⟩
  rcases exists_drained handlers hAt with
    ⟨later, last, hLater, hLast, hDrained⟩
  rcases (hSound.further hLater).passed_on_when_drained
    (hTaken.trans hLater.taken_prefix) hReaches with
    ⟨q', hAt', hRunning, hPassed⟩
  rw [hLast] at hAt'
  cases hAt'
  refine ⟨later, hLater, ?_⟩
  apply (hPassed hDrained (hRunning hSteady)).subset
  exact List.mem_map_of_mem
    (List.mem_append_right _ List.mem_cons_self)

/-
  What happens to a message that comes to a registration in a
  session, after all that was expected before.
-/
structure Receives
    (handlers : Handlers H ω)
    (root : String)
    (s s' : Session H ω)
    (key : Key)
    (v : Subscription H Nat)
    (m : Message) : Prop where
  /-
    Whatever happens, the handler runs unless it broke down, and
    once it has got all that waits it has got the message.
  -/
  inTurn :
    ∀ {later},
      Reachable handlers s' later →
      ∃ q,
        later.queues[v.binding]? = some q ∧
        (¬ handlers.Breaks v.handler → q.running = true) ∧
        (q.waiting = [] →
          q.running = true →
          (s.expected root key v ++ [m]).map (v.handler, ·) <+:
            later.handedTo v.binding)
  /- The message can always be delivered. -/
  delivered :
    ∀ {later},
      Reachable handlers s' later →
      ¬ handlers.Breaks v.handler →
      ∃ last,
        Reachable handlers later last ∧
        (v.handler, m) ∈ last.handedTo v.binding

/- So it is for each registration that a message is taken for. -/
theorem Sound.receives
    (hSound : s'.Sound handlers root)
    (hTaken : s.taken ++ [p] <+: s'.taken)
    (hReaches : p.reaches root key v = true) :
    Receives handlers root s s' key v p.message where
  inTurn := by
    intro later hLater
    exact (hSound.further hLater).passed_on_when_drained
      (hTaken.trans hLater.taken_prefix) hReaches
  delivered := by
    intro later hLater hSteady
    exact (hSound.further hLater).exists_passed_on
      (hTaken.trans hLater.taken_prefix) hReaches hSteady

end Taken

end Session

end Courier
