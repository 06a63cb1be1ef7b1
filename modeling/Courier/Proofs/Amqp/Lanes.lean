import Courier.Proofs.Amqp.Consumers
import Mathlib.Data.List.Basic
import Mathlib.Data.List.Nodup

/-
  This file defines lanes on an AMQP server.  A lane is a queue
  that is bound by the key of one subscription and feeds the
  consumer of that subscription alone.

  Where all queues are lanes, a message is handed to each
  consumer whose lane it reaches, and starting or ending one
  consumer leaves the others alone.  That is so as long as
  keys can be told apart by the names and tags made from them.

  Key definitions include:
    * `Amqp.Apart`
    * `Registration.Key.Plain`
    * `Amqp.Lane`

  Main statements:
    * `Amqp.apart_plain`
    * `Amqp.getElem?_distribute_lanes`
    * `Amqp.started_lanes`
    * `Amqp.abort_cancel`
    * `Amqp.takeOff_lanes`
-/

namespace Courier

open Registration

------------------------------------------------------------
-- Keys that can be told apart
------------------------------------------------------------

/-
  Nothing in the name of a client separates the parts of the
  names that are made from a key.
-/
def Registration.Key.Plain
    (key : Key) : Prop :=
  '.' ∉ key.client.toList ∧ ':' ∉ key.client.toList

namespace Amqp

/- Some keys can be told apart by their queues and consumers. -/
structure Apart
    (K : Key → Prop) : Prop where
  queues :
    ∀ {a b}, K a → K b → queueName a = queueName b → a = b
  consumers :
    ∀ {a b}, K a → K b → consumerTag a = consumerTag b → a = b

/- Two keys are the same if both parts are. -/
theorem key_eq_of_toList_eq
    {a b : Key}
    (hClient : a.client.toList = b.client.toList)
    (hTopic : a.topic.toList = b.topic.toList) :
    a = b := by
  cases a
  cases b
  simp_all [String.toList_inj]

/- What stands on both sides of the first of some characters is unique. -/
theorem cut_unique
    {c : Char}
    {left left' right right' : List Char}
    (hFirst : c ∉ left)
    (hFirst' : c ∉ left')
    (hSame : left ++ c :: right = left' ++ c :: right') :
    left = left' ∧ right = right' := by
  have hLength : left.length = left'.length := by
    have hPlace := congrArg (List.idxOf c) hSame
    rw [List.idxOf_append_of_notMem hFirst,
      List.idxOf_append_of_notMem hFirst'] at hPlace
    simpa using hPlace
  rcases List.append_inj hSame hLength with ⟨hLeft, hRight⟩
  exact ⟨hLeft, List.tail_eq_of_cons_eq hRight⟩

/-
  Plain keys can be told apart, whatever their topics: the
  client follows the last dot in the name of a queue, and
  stands ahead of the first colon in the tag of a consumer.
-/
theorem apart_plain :
    Apart Key.Plain where
  queues := by
    intro a b hPlain hPlain' hName
    have hChars :
        a.topic.toList ++ '.' :: a.client.toList =
          b.topic.toList ++ '.' :: b.client.toList := by
      simpa [queueName] using congrArg String.toList hName
    -- From behind, the client ends at the first dot.
    have hReversed := congrArg List.reverse hChars
    simp only [List.reverse_append, List.reverse_cons,
      List.append_assoc, List.singleton_append] at hReversed
    rcases cut_unique (by simpa using hPlain.1) (by simpa using hPlain'.1)
        hReversed with
      ⟨hClient, hTopic⟩
    exact key_eq_of_toList_eq (List.reverse_inj.mp hClient)
      (List.reverse_inj.mp hTopic)
  consumers := by
    intro a b hPlain hPlain' hTag
    have hChars :
        a.client.toList ++ ':' :: a.topic.toList =
          b.client.toList ++ ':' :: b.topic.toList := by
      simpa [consumerTag] using congrArg String.toList hTag
    rcases cut_unique hPlain.2 hPlain'.2 hChars with ⟨hClient, hTopic⟩
    exact key_eq_of_toList_eq hClient hTopic

/- Keys that are not plain may share a queue. -/
example :
    queueName ⟨"x", "channels.a.b"⟩ = queueName ⟨"b.x", "channels.a"⟩ := by
  decide

------------------------------------------------------------
-- Lanes
------------------------------------------------------------

/- A queue of one consumer. -/
structure Lane where
  /- The number of the consumer. -/
  number : Nat
  /- The key of its subscription. -/
  key : Key

namespace Lane

/- A lane as a queue. -/
def queue
    (lane : Lane) : Queue where
  name := queueName lane.key
  keys := [Topic.bindingKey lane.key.topic]
  turns := [lane.number]

/- Whether the messages of a subject reach a lane. -/
def accepts
    (subject : String)
    (lane : Lane) : Bool :=
  Amqp.accepts (Topic.bindingKey lane.key.topic) subject

@[simp]
theorem queue_accepts
    (subject : String)
    (lane : Lane) :
    lane.queue.accepts subject = lane.accepts subject :=
  Bool.or_false _

@[simp]
theorem queue_turn
    (lane : Lane) :
    lane.queue.turn = lane.queue :=
  rfl

end Lane

variable {H : Type}
variable {b : Broker H}
variable {lanes : List Lane}

/-
  A message is handed to each consumer whose lane it reaches,
  once, and the lanes stay as they are.
-/
theorem distribute_lanes
    (hLanes : b.queues = lanes.map Lane.queue)
    (subject : String)
    (octets : Octets) :
    (b.distribute subject octets).queues = b.queues ∧
      (b.distribute subject octets).consumers =
        ((lanes.filter (Lane.accepts subject)).map (·.number)).foldl
          (fun consumers n => consumers.modify n (Consumer.push octets))
          b.consumers := by
  constructor
  · change b.queues.map _ = b.queues
    rw [hLanes, List.map_map]
    apply List.map_congr_left
    intro lane _
    simp
  · have hReached :
        (b.reached subject).filterMap (·.turns.head?) =
          (lanes.filter (Lane.accepts subject)).map (·.number) := by
      rw [Broker.reached, hLanes, List.filter_map, List.filterMap_map]
      have hAccepts :
          (fun q : Queue => q.accepts subject) ∘ Lane.queue =
            Lane.accepts subject := by
        funext lane
        exact lane.queue_accepts subject
      rw [hAccepts, ← List.filterMap_eq_map]
      rfl
    change List.foldl _ _ ((b.reached subject).filterMap _) = _
    rw [hReached]

/- A message comes to wait once for each consumer that it is handed to. -/
theorem getElem?_distribute_lanes
    (hLanes : b.queues = lanes.map Lane.queue)
    (hNumbers : (lanes.map (·.number)).Nodup)
    (subject : String)
    (octets : Octets)
    (n : Nat) :
    (b.distribute subject octets).consumers[n]? =
      b.consumers[n]?.map fun x =>
        if n ∈ (lanes.filter (Lane.accepts subject)).map (·.number) then
          x.push octets
        else
          x := by
  have hReached :
      ((lanes.filter (Lane.accepts subject)).map (·.number)).Nodup :=
    hNumbers.sublist (List.filter_sublist.map _)
  rw [(distribute_lanes hLanes subject octets).2,
    Pool.getElem?_foldl_modify, hReached.count]
  split
  · rfl
  · rfl

/- A message is handed to the consumer of a lane that it reaches. -/
theorem Lane.mem_reached_iff
    (hNumbers : (lanes.map (·.number)).Nodup)
    {lane : Lane}
    (hMember : lane ∈ lanes)
    (subject : String) :
    lane.number ∈ (lanes.filter (Lane.accepts subject)).map (·.number) ↔
      lane.accepts subject = true := by
  constructor
  · intro hReached
    rcases List.mem_map.mp hReached with ⟨other, hOther, hNumber⟩
    rcases List.mem_filter.mp hOther with ⟨hMember', hAccepts⟩
    have hSame :=
      List.inj_on_of_nodup_map hNumbers hMember' hMember hNumber
    exact hSame ▸ hAccepts
  · intro hAccepts
    exact List.mem_map_of_mem (List.mem_filter.mpr ⟨hMember, hAccepts⟩)

------------------------------------------------------------
-- New lanes
------------------------------------------------------------

/- What is done to the queue of one name leaves the lanes of others alone. -/
theorem map_lanes_of_ne
    {name : String}
    (hOwn : ∀ lane ∈ lanes, queueName lane.key ≠ name)
    {f : Queue → Queue}
    (hOthers : ∀ q : Queue, q.name ≠ name → f q = q) :
    (lanes.map Lane.queue).map f = lanes.map Lane.queue := by
  rw [List.map_map]
  apply List.map_congr_left
  intro lane hMember
  exact hOthers lane.queue (hOwn lane hMember)

/- A consumer on a queue of its own has a lane. -/
theorem started_lanes
    (hLanes : b.queues = lanes.map Lane.queue)
    {key : Key}
    (hOwn : ∀ lane ∈ lanes, queueName lane.key ≠ queueName key)
    (handler : H) :
    (b.started key handler).queues =
      (lanes ++ [Lane.mk b.consumers.length key]).map Lane.queue := by
  have hNew : b.queues.any (·.name == queueName key) = false := by
    rw [hLanes, List.any_map, List.any_eq_false]
    intro lane hMember
    simpa [Lane.queue] using hOwn lane hMember
  have hDeclared :
      ((b.tell (.declareQueue (queueName key) queueOptions)).declareQueue
          (queueName key)).queues =
        lanes.map Lane.queue ++ [⟨queueName key, [], []⟩] := by
    unfold Broker.declareQueue
    rw [if_neg (by simpa [Broker.tell] using hNew)]
    exact congrArg (· ++ _) hLanes
  have hPrepared :
      (b.prepare key).queues =
        lanes.map Lane.queue ++
          [⟨queueName key, [Topic.bindingKey key.topic], []⟩] := by
    change List.map _ (Broker.declareQueue _ _).queues = _
    rw [hDeclared, List.map_append,
      map_lanes_of_ne hOwn fun q hOther => if_neg fun h => hOther h.1]
    simp
  change List.map _ (b.prepare key).queues = _
  rw [hPrepared, List.map_append, List.map_append,
    map_lanes_of_ne hOwn fun q hOther => if_neg hOther,
    (prepare_frame b key).1]
  simp [Lane.queue]

------------------------------------------------------------
-- Lanes that end
------------------------------------------------------------

/- The lane of a consumer is taken off with it, and no other. -/
theorem takeOff_lanes
    (n : Nat)
    (lanes : List Lane) :
    Broker.takeOff n (lanes.map Lane.queue) =
      (lanes.filter (·.number ≠ n)).map Lane.queue := by
  induction lanes with
  | nil => rfl
  | cons lane rest ih =>
      unfold Broker.takeOff at ih ⊢
      rw [List.map_cons, List.filterMap_cons, ih, List.filter_cons]
      by_cases hSame : lane.number = n
      · simp [Lane.queue, hSame]
      · simp [Lane.queue, hSame, Ne.symm hSame]

section Endings

variable {n : Nat}
variable {x : Consumer H}
variable (hAt : b.consumers[n]? = some x)
variable (hOnly :
  ∀ {m : Nat} {y}, b.consumers[m]? = some y → y.held = true →
    y.tag = x.tag → m = n)

include hAt

/- Nothing waits for a consumer that is fed no longer. -/
theorem consumers_abort :
    (b.abort n).consumers = b.consumers.set n { x with waiting := [] } := by
  change b.consumers.modify n _ = _
  rw [List.modify_eq_set_getElem?, hAt]
  rfl

include hOnly

/- The server finds it under its tag while it holds it. -/
theorem consumerUnder?_abort :
    (b.abort n).consumerUnder? x.tag =
      if x.held then some n else none := by
  have hFound :
      ∀ {m : Nat} {y}, (b.abort n).consumers[m]? = some y →
        (y.held && y.tag == x.tag) = true → m = n ∧ x.held = true := by
    intro m y hAt' hUnder
    rw [consumers_abort hAt] at hAt'
    rw [Bool.and_eq_true, beq_iff_eq] at hUnder
    rcases Pool.stepped_cases hAt' with ⟨rfl, rfl⟩ | ⟨hOther, hOld⟩
    · exact ⟨rfl, hUnder.1⟩
    · exact absurd (hOnly hOld hUnder.1 hUnder.2) hOther
  have hSelf :
      { x with waiting := [] } ∈ (b.abort n).consumers := by
    rw [consumers_abort hAt]
    exact List.mem_set (List.getElem?_eq_some_iff.mp hAt).1 _
  unfold Broker.consumerUnder?
  cases hHeld : x.held with
  | false =>
      apply List.findIdx?_eq_none_iff.mpr
      intro y hMember
      rcases List.mem_iff_getElem?.mp hMember with ⟨m, hAt'⟩
      by_contra hUnder
      rw [Bool.not_eq_false] at hUnder
      exact Bool.false_ne_true (hHeld.symm.trans (hFound hAt' hUnder).2)
  | true =>
      cases hFirst :
          (b.abort n).consumers.findIdx? fun y => y.held && y.tag == x.tag with
      | none =>
          have hNone := List.findIdx?_eq_none_iff.mp hFirst _ hSelf
          simp [hHeld] at hNone
      | some m =>
          rcases List.findIdx?_eq_some_iff_getElem.mp hFirst with
            ⟨hBound, hUnder, -⟩
          have hSame :=
            (hFound (List.getElem?_eq_getElem hBound) hUnder).1
          rw [hSame]
          rfl

/-
  A consumer is fed no longer and cancelled, where the server
  holds no other one under its tag.
-/
theorem abort_cancel
    (hGone : x.held = false → Broker.takeOff n b.queues = b.queues) :
    ((b.abort n).cancel x.tag).consumers =
        b.consumers.set n { x with held := false, waiting := [] } ∧
      ((b.abort n).cancel x.tag).queues = Broker.takeOff n b.queues ∧
      ((b.abort n).cancel x.tag).isOpen = b.isOpen := by
  have hUnder := consumerUnder?_abort hAt hOnly
  have hAborted := consumers_abort hAt
  unfold Broker.cancel
  cases hHeld : x.held with
  | false =>
      rw [hHeld, if_neg Bool.false_ne_true] at hUnder
      rw [hUnder, Option.isSome_none, if_neg Bool.false_ne_true]
      refine ⟨?_, (hGone hHeld).symm, rfl⟩
      rw [hAborted, ← hHeld]
  | true =>
      rw [hHeld, if_pos rfl] at hUnder
      have hTold :
          ((b.abort n).tell (.cancel x.tag)).consumerUnder? x.tag =
            some n := hUnder
      rw [hUnder, if_pos Option.isSome_some]
      unfold Broker.endConsumer
      rw [hTold]
      refine ⟨?_, rfl, rfl⟩
      change (b.abort n).consumers.modify n _ = _
      rw [hAborted, Pool.modify_set]

end Endings

end Amqp

end Courier
