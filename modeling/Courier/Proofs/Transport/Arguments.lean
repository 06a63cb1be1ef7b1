import Courier.Proofs.Transport.Closing

/-
  What clients answer to arguments that cannot be used.

  A message is checked ahead of all else, so its fault does not
  depend on the state of the client.  A call that changes a
  subscription looks first whether the client is closed, and
  then checks its key: a closed client answers that it is
  closed, whatever the key, and an open one reports the key.
  The fault is the same on all transports, whatever the table
  holds, and even if the lock on it is poisoned.

  In no case does such a call change anything or run a
  callback, whatever other calls do meanwhile.

  Key definitions include:
    * `Registration.Key.Faulty`, `Message.Faulty`
    * `Client.Call.Fruitless`
    * `Client.Traffic.Fruitless`

  Main statements:
    * `Registration.Key.check_eq_error`
    * `Message.checkFor_eq_error`
    * `Client.Call.Fruitless.step`
    * `Client.Traffic.Fruitless.step`
    * `Client.Traffic.refused_for_arguments`
-/

namespace Courier

open Registration

------------------------------------------------------------
-- Arguments
------------------------------------------------------------

/- What is wrong with a key that cannot be used. -/
inductive Registration.Key.Faulty : Key → Fault → Prop where
  /- It names no client. -/
  | nobody
      (topic : String) :
      Faulty ⟨"", topic⟩ .emptyId
  /- It names a client, but no topic. -/
  | nothing
      {client : String}
      (hSomebody : client ≠ "") :
      Faulty ⟨client, ""⟩ .emptyTopic

theorem Registration.Key.check_eq_error
    (key : Key)
    (fault : Fault) :
    key.check = .error fault ↔ key.Faulty fault := by
  rcases key with ⟨client, topic⟩
  constructor
  · intro hCheck
    simp only [check, String.isEmpty_iff] at hCheck
    split_ifs at hCheck with hNobody hNothing
    · cases hCheck
      subst hNobody
      exact .nobody topic
    · cases hCheck
      subst hNothing
      exact .nothing hNobody
  · intro hFaulty
    cases hFaulty with
    | nobody topic => rfl
    | nothing hSomebody => simp [check, hSomebody]

/- What is wrong with a message that a topic cannot take. -/
inductive Message.Faulty
    (m : Message) : String → Fault → Prop where
  /- There is no topic. -/
  | untitled : m.Faulty "" .emptyTopic
  /- The message is for no channel. -/
  | nowhere
      {topic : String}
      (hTopic : topic ≠ "")
      (hChannel : m.channel = "") :
      m.Faulty topic .emptyChannel
  /- The message is for another channel. -/
  | elsewhere
      {topic : String}
      (hTopic : topic ≠ "")
      (hChannel : m.channel ≠ "")
      (hOther : m.channel ≠ topic) :
      m.Faulty topic
        (.malformedTopic
          ("message channel " ++ m.channel
            ++ " does not match topic " ++ topic))

theorem Message.checkFor_eq_error
    (m : Message)
    (topic : String)
    (fault : Fault) :
    m.checkFor topic = .error fault ↔ m.Faulty topic fault := by
  constructor
  · intro hCheck
    simp only [checkFor, String.isEmpty_iff] at hCheck
    split_ifs at hCheck with hTopic hChannel hOther
    · cases hCheck
      subst hTopic
      exact .untitled
    · cases hCheck
      exact .nowhere hTopic hChannel
    · cases hCheck
      exact .elsewhere hTopic hChannel hOther
  · intro hFaulty
    cases hFaulty with
    | untitled => rfl
    | nowhere hTopic hChannel => simp [checkFor, hTopic, hChannel]
    | elsewhere hTopic hChannel hOther =>
        simp [checkFor, hTopic, hChannel, hOther]

namespace Client

variable {H B τ ω : Type}

/- A message that a topic cannot take is sent nowhere. -/
theorem publish_refused
    {m : Message}
    {topic : String}
    {fault : Fault}
    (hFaulty : m.Faulty topic fault)
    (t : Transport H B τ)
    (c : Client H B τ ω) :
    publish t topic m c = (.error fault, c) := by
  have hCheck := (m.checkFor_eq_error topic fault).mpr hFaulty
  simp [publish, hCheck]

/- A key that cannot be used is given no subscription, nor loses one. -/
theorem key_refused
    [DecidableEq H]
    {key : Key}
    {fault : Fault}
    (hFaulty : key.Faulty fault)
    (t : Transport H B τ)
    (handlers : Handlers H ω)
    (c : Client H B τ ω) :
    let answer := if c.state.closed then Fault.closed else fault
    (∀ handler,
      subscribe t handlers key handler c = (.error answer, c)) ∧
    unsubscribe t handlers key c = (.error answer, c) := by
  have hCheck := (key.check_eq_error fault).mpr hFaulty
  cases hClosed : c.state.closed with
  | true =>
      exact
        ⟨fun handler => subscribe_closed hClosed,
          unsubscribe_closed hClosed⟩
  | false =>
      exact
        ⟨fun handler => subscribe_refused hClosed hCheck,
          unsubscribe_refused hClosed hCheck⟩

------------------------------------------------------------
-- Steps of a call
------------------------------------------------------------

/- The key whose subscription a call is to change. -/
def keyOf? : Request H → Option Key
  | .subscribe key _ => some key
  | .unsubscribe key => some key
  | .clear => none

namespace Call

/-
  Where a call stands that asks for what it cannot have, if the
  client was or was not closed when the call was made, and is
  or is not by now.
-/
inductive Fruitless
    (request : Request H)
    (fault : Fault)
    (before now : Bool) : Call H B → Prop where
  | asked : Fruitless request fault before now (.entering request)
  /- The client was open, and the key was found at fault. -/
  | checked
      (hOpen : before = false) :
      Fruitless request fault before now (.changing (.done (.error fault)))
  | refused
      (hOpen : before = false) :
      Fruitless request fault before now (.done (.error fault))
  /- The client was closed by then. -/
  | late
      (hClosed : now = true) :
      Fruitless request fault before now (.done (.error .closed))

/- Whether a client was closed meanwhile makes no other difference. -/
theorem Fruitless.mono
    {request : Request H}
    {fault : Fault}
    {before now later : Bool}
    {call : Call H B}
    (hFruitless : call.Fruitless request fault before now)
    (hLater : now = true → later = true) :
    call.Fruitless request fault before later := by
  cases hFruitless with
  | asked => exact .asked
  | checked hOpen => exact .checked hOpen
  | refused hOpen => exact .refused hOpen
  | late hClosed => exact .late (hLater hClosed)

/- Such a call starts with a request whose key is at fault. -/
theorem start_faulty
    {request : Request H}
    {key : Key}
    {fault : Fault}
    (hSubject : keyOf? request = some key)
    (hFaulty : key.Faulty fault) :
    (.start request : Registration.Call H B) = .done (.error fault) := by
  have hCheck := (key.check_eq_error fault).mpr hFaulty
  cases request with
  | subscribe other handler =>
      cases hSubject
      simp [Registration.Call.start, Registration.Call.checked, hCheck]
  | unsubscribe other =>
      cases hSubject
      simp [Registration.Call.start, Registration.Call.checked, hCheck]
  | clear => cases hSubject

/- Its steps change nothing, and run no callback. -/
theorem Fruitless.step
    [DecidableEq H]
    {request : Request H}
    {fault : Fault}
    {before : Bool}
    {call : Call H B}
    {c : Client H B τ ω}
    (hFruitless : call.Fruitless request fault before c.state.closed)
    (hStart :
      (.start request : Registration.Call H B) = .done (.error fault))
    (hBefore : before = true → c.state.closed = true)
    (t : Transport H B τ)
    (handlers : Handlers H ω) :
    (call.step t handlers c).2 = c ∧
      call.happening? t handlers c = none ∧
      (call.step t handlers c).1.Fruitless request fault before
        c.state.closed := by
  cases hFruitless with
  | asked =>
      cases hClosed : c.state.closed with
      | true =>
          have hStep :
              (Call.entering request).step t handlers c =
                (.done (.error .closed), c) := by
            simp [Call.step, hClosed]
          rw [hStep]
          exact ⟨rfl, rfl, .late rfl⟩
      | false =>
          have hStep :
              (Call.entering request).step t handlers c =
                (.changing (.done (.error fault)), c) := by
            simp [Call.step, hClosed, hStart]
          have hOpen : before = false := by
            by_contra hEarly
            rw [hBefore (by simpa using hEarly)] at hClosed
            cases hClosed
          rw [hStep]
          exact ⟨rfl, rfl, .checked hOpen⟩
  | checked hOpen => exact ⟨rfl, rfl, .refused hOpen⟩
  | refused hOpen => exact ⟨rfl, rfl, .refused hOpen⟩
  | late hClosed => exact ⟨rfl, rfl, .late hClosed⟩

end Call

------------------------------------------------------------
-- Any order of steps
------------------------------------------------------------

namespace Traffic

/- What holds of a call that asks for what it cannot have. -/
structure Fruitless
    (request : Request H)
    (fault : Fault)
    (before : Bool)
    (i : Nat)
    (s : Traffic H B τ ω) : Prop where
  closed : before = true → s.client.state.closed = true
  stands :
    ∃ call,
      s.calls[i]? = some (request, call) ∧
        call.Fruitless request fault before s.client.state.closed
  /- No callback ran for it. -/
  silent : ∀ x ∈ s.log, x.1 ≠ i

section Steps

variable [DecidableEq H]
variable {t : Transport H B τ}
variable {handlers : Handlers H ω}
variable {s s' : Traffic H B τ ω}
variable {request : Request H}
variable {fault : Fault}
variable {before : Bool}
variable {i : Nat}

/- Whatever is done next, such a call comes to nothing. -/
theorem Fruitless.step
    (hFruitless : Fruitless request fault before i s)
    (hStart :
      (.start request : Registration.Call H B) = .done (.error fault))
    (hStep : Step t handlers s s') :
    Fruitless request fault before i s' := by
  have hLater := hStep.closed
  have hClosed := fun hEarly => hLater (hFruitless.closed hEarly)
  rcases hFruitless.stands with ⟨call, hAt, hStands⟩
  have hThere := (List.getElem?_eq_some_iff.mp hAt).1
  cases hStep with
  | ask other =>
      have hSame :
          (s.calls ++ [(other, .asking other)])[i]? =
            some (request, call) := by
        rw [List.getElem?_append_left hThere, hAt]
      exact ⟨hClosed, ⟨call, hSame, hStands⟩, hFruitless.silent⟩
  | @advance j other call₁ call₂ client' hAtOther hStep =>
      by_cases hSelf : j = i
      · -- The call itself takes a step.
        subst hSelf
        cases hAt.symm.trans hAtOther
        have hNothing :=
          hStands.step hStart hFruitless.closed t handlers
        rw [hStep] at hNothing
        rcases hNothing with ⟨rfl, hSilent, hStands'⟩
        refine ⟨hClosed, ⟨call₂, List.getElem?_set_self hThere, hStands'⟩, ?_⟩
        intro x hMember
        rw [hSilent] at hMember
        exact hFruitless.silent x (by simpa using hMember)
      · have hSame :
            (s.calls.set j (other, call₂))[i]? = some (request, call) := by
          rw [List.getElem?_set_ne hSelf, hAt]
        refine ⟨hClosed, ⟨call, hSame, hStands.mono hLater⟩, ?_⟩
        intro x hMember
        rcases List.mem_append.mp hMember with hOld | hNow
        · exact hFruitless.silent x hOld
        · rcases List.mem_map.mp hNow with ⟨happening, -, rfl⟩
          exact hSelf
  | act hMark =>
      exact ⟨hClosed, ⟨call, hAt, hStands.mono hLater⟩, hFruitless.silent⟩
  | poison => exact ⟨hClosed, ⟨call, hAt, hStands⟩, hFruitless.silent⟩
  | reorder hReordered =>
      exact ⟨hClosed, ⟨call, hAt, hStands⟩, hFruitless.silent⟩

theorem Reachable.fruitless
    (hReachable : Reachable t handlers s s')
    (hFruitless : Fruitless request fault before i s)
    (hStart :
      (.start request : Registration.Call H B) = .done (.error fault)) :
    Fruitless request fault before i s' := by
  induction hReachable with
  | start => exact hFruitless
  | step _ hStep ih => exact ih.step hStart hStep

/-
  On a client of any transport, whatever its state:

    * a message that its topic cannot take is refused for its
      own fault, open or closed;
    * a key that cannot be used is refused for its own fault by
      an open client, and by a closed one because it is closed;
    * nothing is changed by that.

  The same holds of a call among others that take their steps in
  any order.  It is refused for its key, or because the client
  is closed by then; it is never refused for its key by a client
  that was closed before.  None of its steps changes anything,
  and no callback runs for it.
-/
theorem refused_for_arguments
    (t : Transport H B τ)
    (handlers : Handlers H ω) :
    (∀ m topic fault,
      Message.Faulty m topic fault →
      ∀ c : Client H B τ ω, publish t topic m c = (.error fault, c)) ∧
    (∀ key fault,
      Key.Faulty key fault →
      ∀ c : Client H B τ ω,
        let answer := if c.state.closed then Fault.closed else fault
        (∀ handler,
          subscribe t handlers key handler c = (.error answer, c)) ∧
        unsubscribe t handlers key c = (.error answer, c)) ∧
    (∀ key fault request,
      Key.Faulty key fault →
      keyOf? request = some key →
      ∀ root transport world s later,
        Reachable t handlers (start root transport world) s →
        Reachable t handlers
          { s with calls := s.calls ++ [(request, .asking request)] }
          later →
        ∃ call,
          later.calls[s.calls.length]? = some (request, call) ∧
          (∀ result, call = .done result →
            (result = .error fault ∧ s.client.state.closed = false) ∨
            (result = .error .closed ∧
              later.client.state.closed = true)) ∧
          (call.step t handlers later.client).2 = later.client ∧
          ∀ x ∈ later.log, x.1 ≠ s.calls.length) := by
  refine ⟨?_, ?_, ?_⟩
  · intro m topic fault hFaulty c
    exact publish_refused hFaulty t c
  · intro key fault hFaulty c
    exact key_refused hFaulty t handlers c
  · intro key fault request hFaulty hSubject root transport world s later
      hReached hLater
    have hStart := Call.start_faulty (B := B) hSubject hFaulty
    have hAsked : (.asking request : Call H B) = .entering request := by
      cases request with
      | subscribe other handler => rfl
      | unsubscribe other => rfl
      | clear => cases hSubject
    have hLog := hReached.log_lt fun x hMember =>
      absurd hMember List.not_mem_nil
    have hFruitless :
        Fruitless request fault s.client.state.closed s.calls.length
          later := by
      apply hLater.fruitless ?_ hStart
      refine ⟨id, ⟨.entering request, ?_, .asked⟩, ?_⟩
      · rw [hAsked]
        exact List.getElem?_concat_length
      · intro x hMember
        exact (hLog x hMember).ne
    rcases hFruitless.stands with ⟨call, hAt, hStands⟩
    refine ⟨call, hAt, ?_, ?_, hFruitless.silent⟩
    · intro result hDone
      subst hDone
      cases hStands with
      | refused hOpen => exact Or.inl ⟨rfl, hOpen⟩
      | late hClosed => exact Or.inr ⟨rfl, hClosed⟩
    · exact (hStands.step hStart hFruitless.closed t handlers).1

end Steps

/-
  A call to unsubscribe nobody's topic finds the client open,
  and returns when it is closed.
-/
def mumbled : Traffic Nat Nat (LocalBroker Nat) Unit :=
  [ .ask (.unsubscribe ⟨"client", ""⟩), .advance 1
  , .ask .clear, .advance 2, .advance 1 ].foldl
    (move LocalBroker.transport patient) subscribed

/- It is refused for its key, and the subscription there stays. -/
theorem mumbled_refused_for_arguments :
    Key.Faulty ⟨"client", ""⟩ .emptyTopic ∧
    Reachable LocalBroker.transport patient unused subscribed ∧
    mumbled.client.state.closed = true ∧
    mumbled.calls[1]? =
      some (.unsubscribe ⟨"client", ""⟩, .done (.error .emptyTopic)) ∧
    mumbled.client.registry.table.get? listening = some ⟨10, 0⟩ ∧
    (∀ x ∈ mumbled.log, x.1 ≠ 1) ∧
    publish LocalBroker.transport "" ⟨"c", "", "", "", [], 0⟩
        mumbled.client =
      (.error .emptyTopic, mumbled.client) := by
  have hFaulty : Key.Faulty ⟨"client", ""⟩ .emptyTopic :=
    .nothing (by decide)
  have hLater :
      Reachable LocalBroker.transport patient
        { subscribed with
          calls :=
            subscribed.calls ++
              [(.unsubscribe ⟨"client", ""⟩,
                .asking (.unsubscribe ⟨"client", ""⟩))] }
        mumbled :=
    reachable_moves _ _
      [.advance 1, .ask .clear, .advance 2, .advance 1] _
  rcases refused_for_arguments LocalBroker.transport patient with
    ⟨hMessages, -, hCalls⟩
  rcases hCalls _ _ (.unsubscribe ⟨"client", ""⟩) hFaulty rfl "channels"
      (.create false) () subscribed mumbled reachable_subscribed hLater with
    ⟨-, -, -, -, hSilent⟩
  exact
    ⟨hFaulty, reachable_subscribed, rfl, rfl, rfl, hSilent,
      hMessages _ _ _ .untitled _⟩

/- A client of a broker in memory, once it was closed. -/
def retired : Client Nat Nat (LocalBroker Nat) Unit :=
  (close LocalBroker.transport patient unused.client).2

/- A closed client does not report what is wrong with a key. -/
theorem retired_hides_key_faults :
    Key.Faulty ⟨"", "topic"⟩ .emptyId ∧
    Key.Faulty ⟨"client", ""⟩ .emptyTopic ∧
    subscribe LocalBroker.transport patient ⟨"", "topic"⟩ 10 retired ≠
      (.error .emptyId, retired) ∧
    unsubscribe LocalBroker.transport patient ⟨"client", ""⟩ retired ≠
      (.error .emptyTopic, retired) := by
  have hClosed : retired.state.closed = true := rfl
  rw [subscribe_closed hClosed, unsubscribe_closed hClosed]
  refine ⟨.nobody "topic", .nothing (by decide), ?_, ?_⟩
  · intro hSame
    cases (Prod.mk.inj hSame).1
  · intro hSame
    cases (Prod.mk.inj hSame).1

end Traffic

end Client

end Courier
