import Courier.Proofs.Transport.Lawful
import Courier.Proofs.Transport.Queue

/-
  This file shows that a broker in memory is lawful while it
  takes messages and threads can be started.  The queue of a subscription is its box,
  which is live as long as it is attached and runs.

  Key definitions include:
    * `LocalBroker.Queue.box`
    * `LocalBroker.line`
    * `LocalBroker.Serving`

  Main statements:
    * `LocalBroker.lawful`
-/

namespace Courier.LocalBroker

open Registration

variable {H ω : Type}

------------------------------------------------------------
-- Queues as boxes
------------------------------------------------------------

/- What a queue is to clients. -/
def Queue.box
    (q : Queue H) : Box H where
  handler := q.handler
  live := q.attached && q.running
  waiting := q.waiting

/- The broker in memory, which delivers from queues by their numbers. -/
def line : Line H (LocalBroker H) ω Nat where
  transport := transport
  boxes := fun b => b.queues.map Queue.box
  deliver := deliver

/- A queue that is detached is a box that is shut. -/
theorem boxes_detach
    (queues : List (Queue H))
    (n : Nat) :
    (queues.modify n fun q => { q with attached := false }).map Queue.box =
      (queues.map Queue.box).modify n Box.shut := by
  apply Pool.map_modify
  intro q _
  simp [Queue.box, Box.shut]

/- A queue that is not live takes nothing. -/
theorem Queue.push_iterate_of_dead
    {q : Queue H}
    (hDead : q.box.live = false)
    (octets : Octets)
    (times : Nat) :
    (Queue.push octets)^[times] q = q := by
  have hKept : q.push octets = q := by
    unfold Queue.push
    split
    · rename_i hLive
      exact absurd (hDead.symm.trans hLive) nofun
    · rfl
  exact Function.iterate_fixed hKept times

/- A live queue takes a payload that its key covers, once. -/
theorem Queue.push_iterate_of_live
    {q : Queue H}
    {key : Key}
    (hLive : q.box.live = true)
    (subject : String)
    (octets : Octets) :
    ((Queue.push octets)^[
        if Topic.covers key.topic subject then 1 else 0] q).box =
      q.box.post subject octets key := by
  have hTakes : (q.attached && q.running) = true := hLive
  unfold Box.post
  rw [hLive, Bool.true_and]
  split
  · simp [Queue.push, Queue.box, hTakes]
  · rfl

/- The last payload of a queue is received, and the box is settled. -/
theorem Queue.deliver_last
    {q : Queue H}
    {octets : Octets}
    (hWaiting : q.waiting = [octets])
    (handlers : Handlers H ω)
    (w : ω) :
    (q.deliver handlers w).1.box =
        q.box.settle (handlers.receive q.handler octets w).1 ∧
      (q.deliver handlers w).2 =
        (handlers.receive q.handler octets w).2 := by
  unfold Queue.deliver
  rw [hWaiting]
  dsimp only
  cases (handlers.receive q.handler octets w).1 with
  | false => simp [Queue.box, Box.settle]
  | true => simp [Queue.box, Box.settle]

------------------------------------------------------------
-- The laws
------------------------------------------------------------

/- What waits first in a queue is passed on by a delivery from it. -/
theorem delivers_of_waiting
    {handlers : Handlers H ω}
    {c : LocalClient H ω}
    {octets : Octets}
    {n : Nat}
    {q : Queue H}
    (hAt : c.state.transport.queues[n]? = some q)
    (hWaiting : q.waiting = [octets]) :
    line.Delivers handlers octets n c (deliver handlers n c) := by
  rcases deliver_cases handlers n c with
    ⟨hNone, -⟩ | ⟨q', b, hAt', hQueues, hDelivered⟩
  · exact absurd (hAt.symm.trans hNone) nofun
  · cases hAt.symm.trans hAt'
    rcases q.deliver_last hWaiting handlers c.state.world with
      ⟨hBox, hWorld⟩
    refine ⟨q.box, b, ?_, hWaiting, ?_, ?_⟩
    · change (c.state.transport.queues.map Queue.box)[n]? = _
      rw [List.getElem?_map, hAt]
      rfl
    · rw [hDelivered, hWorld]
      rfl
    · change b.queues.map Queue.box =
        (c.state.transport.queues.map Queue.box).set n _
      rw [hQueues, List.map_set, hBox]
      rfl

/- Nothing happens where nothing waits. -/
theorem deliver_empty
    {c : LocalClient H ω}
    {n : Nat}
    {q : Queue H}
    (hAt : c.state.transport.queues[n]? = some q)
    (hEmpty : q.waiting = [])
    (handlers : Handlers H ω) :
    deliver handlers n c = c := by
  have hNothing :
      q.deliver handlers c.state.world = (q, c.state.world) := by
    simp [Queue.deliver, hEmpty]
  have hSame : c.state.transport.queues.set n q = c.state.transport.queues := by
    rcases List.getElem?_eq_some_iff.mp hAt with ⟨hBound, rfl⟩
    exact List.set_getElem_self hBound
  simp only [deliver, hAt, hNothing, hSame]
  rfl

/- The broker takes messages, and threads can be started. -/
def Serving
    (b : LocalBroker H) : Prop :=
  b.available = true ∧ b.refusal = none

/- Deliveries do not make a broker unavailable. -/
theorem Serving.deliver
    {c : LocalClient H ω}
    (hServing : Serving c.state.transport)
    (handlers : Handlers H ω)
    (n : Nat) :
    Serving (deliver handlers n c).state.transport := by
  simp only [LocalBroker.deliver]
  split
  · exact hServing
  · exact hServing

/- A box that is live takes each message that its key covers once. -/
theorem count_matching
    [DecidableEq H]
    {keys : List Key}
    {r : Registry H Nat}
    {boxes : List (Box H)}
    (hTallied : Tallied keys r boxes)
    {n : Nat}
    {box : Box H}
    {key : Key}
    (hBox : boxes[n]? = some box)
    (hLive : box.live = true)
    (hKey : keys[n]? = some key)
    (subject : String) :
    ((r.matching subject).map (·.2.binding)).count n =
      if Topic.covers key.topic subject then 1 else 0 := by
  rcases hTallied.live hBox hLive with ⟨key', hKey', hFound⟩
  cases hKey.symm.trans hKey'
  have hOnly :
      ∀ {other v}, r.table.get? other = some v → v.binding = n →
        other = key ∧ v = ⟨box.handler, n⟩ := by
    intro other v hOther hBinding
    have hSame := (hTallied.registered hOther).1
    rw [hBinding, hKey] at hSame
    cases hSame
    exact ⟨rfl, Option.some.inj (hOther.symm.trans hFound)⟩
  have hBindings :=
    Table.count_bindings
      (fun other => Topic.covers other.topic subject)
      (v := ⟨box.handler, n⟩) hOnly
  simp only [hFound, true_and] at hBindings
  exact hBindings

/- Messages that come to wait leave a broker available. -/
theorem Serving.enqueues
    {b : LocalBroker H}
    (hServing : b.Serving)
    (octets : Octets)
    (ns : List Nat) :
    (ns.foldl (enqueue octets) b).Serving := by
  induction ns generalizing b with
  | nil => exact hServing
  | cons n rest ih => exact ih (b := enqueue octets b n) hServing

/- A message goes to the queues of the keys that cover its subject. -/
theorem boxes_send
    [DecidableEq H]
    {keys : List Key}
    {r : Registry H Nat}
    {b : LocalBroker H}
    (hTallied : Tallied keys r (b.queues.map Queue.box))
    (hServing : b.Serving)
    (subject : String)
    (m : Message) :
    ∃ b',
      send r subject m b = (.ok (), b') ∧
      b'.Serving ∧
      b'.queues.map Queue.box =
        List.zipWith (Box.post subject m.encode) keys
          (b.queues.map Queue.box) := by
  let targets := (r.matching subject).map (·.2.binding)
  have hSend :
      send r subject m b =
        (.ok (), targets.foldl (enqueue m.encode) (b.record subject m)) := by
    simp [send, Registry.route, hTallied.usable, targets]
  have hRecorded : (b.record subject m).Serving := hServing
  refine ⟨_, hSend, hRecorded.enqueues m.encode targets, ?_⟩
  apply List.ext_getElem?
  intro n
  rw [List.getElem?_map, queues_enqueue, List.getElem?_zipWith,
    List.getElem?_map]
  change (Option.map _ b.queues[n]?).map _ = _
  cases hAt : b.queues[n]? with
  | none =>
      cases keys[n]? with
      | none => rfl
      | some key => rfl
  | some q =>
      have hBox : (b.queues.map Queue.box)[n]? = some q.box := by
        rw [List.getElem?_map, hAt]
        rfl
      cases hKey : keys[n]? with
      | none =>
          have hLength := hTallied.length
          have hBound := (List.getElem?_eq_some_iff.mp hBox).1
          have hOut := List.getElem?_eq_none_iff.mp hKey
          omega
      | some key =>
          simp only [Option.map_some]
          cases hLive : q.box.live with
          | false =>
              rw [Queue.push_iterate_of_dead hLive]
              simp [Box.post, hLive]
          | true =>
              have hCount : targets.count n = _ :=
                count_matching hTallied hBox hLive hKey subject
              rw [hCount, Queue.push_iterate_of_live hLive]

/- No thread is named after an id with a null character. -/
theorem panics_eq_false
    {key : Key}
    (hClient : '\x00' ∉ key.client.toList) :
    panics key = false := by
  simp [panics, hClient]

/- A broker in memory that takes messages is lawful. -/
theorem lawful
    [DecidableEq H]
    (handlers : Handlers H ω)
    (limit : Nat) :
    line.Lawful handlers limit (fun _ => .ok ())
      (fun _ (b : LocalBroker H) => b.Serving) where
  ready := by
    intro keys b hServing
    simp [line, transport, ready, hServing.1]
  ping := by
    intro keys b hServing patience
    simp [line, transport, ready, hServing.1]
  disconnect := fun b => rfl
  calm := panics_eq_false
  bind := by
    intro keys b hServing hLength key handler
    refine ⟨b.extend handler, ?_, ?_, hServing⟩
    · have hNumber : (b.queues.map Queue.box).length = b.queues.length :=
        List.length_map _
      change bind key handler b = (.ok (b.queues.map Queue.box).length, _)
      rw [bind_started hServing.2, hNumber]
    · exact List.map_append
  unbind := by
    intro keys b hServing hEmpty n
    exact ⟨_, rfl, boxes_detach b.queues n, hServing⟩
  send := by
    intro keys b r hServing hTallied hEmpty subject m hSubject hSize
    rcases boxes_send hTallied hServing subject m with
      ⟨b', hSend, hServing', hBoxes⟩
    exact ⟨b', hSend, hBoxes, hServing'⟩
  deliver := by
    intro keys c octets hServing hThin n
    refine ⟨hServing.deliver handlers n, ?_⟩
    cases hAt : c.state.transport.queues[n]? with
    | none =>
        rcases deliver_cases handlers n c with ⟨-, hSame⟩ | ⟨q, b, hAt', -⟩
        · exact Or.inl hSame
        · cases hAt.symm.trans hAt'
    | some q =>
        rcases hThin q.box (List.mem_map_of_mem (List.mem_of_getElem? hAt))
          with hEmpty | hFull
        · exact Or.inl (deliver_empty hAt hEmpty handlers)
        · exact Or.inr ⟨n, delivers_of_waiting hAt hFull⟩
  deliverable := by
    intro keys c octets hServing hThin n box hAt hWaiting
    change (c.state.transport.queues.map Queue.box)[n]? = some box at hAt
    rw [List.getElem?_map] at hAt
    rcases Option.map_eq_some_iff.mp hAt with ⟨q, hQueue, rfl⟩
    exact ⟨n, delivers_of_waiting hQueue hWaiting⟩

end Courier.LocalBroker
