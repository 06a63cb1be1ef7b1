import Courier.Outbox.MemoryStore
import Mathlib.Data.List.DropRight
import Mathlib.Data.List.Nodup

/-
  What the stream store in memory keeps, whatever is done to
  it.  An append that is accepted puts one entry behind those
  of its stream, of which the latest are kept, as many as the
  record says; nothing else changes a stream.  Entries are
  numbered in the order in which their records were accepted,
  one after the other over all streams.

  A course of a store keeps, beside the store, the records
  that were accepted, and what the appends answered that were
  tried while the store was available.

  Key definitions include:
    * `MemoryStore.Operation`
    * `MemoryStore.Course`, `MemoryStore.Course.run`
    * `MemoryStore.Appends`
    * `MemoryStore.Course.Settled`
    * `MemoryStore.Course.Spends`

  Main statements:
    * `MemoryStore.appends`
    * `MemoryStore.Course.Settled.next`
    * `MemoryStore.Course.Spends.next`
    * `MemoryStore.Course.newest_retained`
-/

namespace Courier.MemoryStore

------------------------------------------------------------
-- Appending
------------------------------------------------------------

/- The entries that a stream is to keep under a cap; zero is none. -/
def latest
    (cap : Nat)
    (entries : List Entry) : List Entry :=
  if cap = 0 then entries else entries.rtake cap

/- What an append answers that is made to fail. -/
def injected : Except StoreFault String :=
  .error (.rejected "injected append failure")

/-
  All that an append can do: find the store away, use up a
  failure, or add an entry.
-/
inductive Appends
    (now : Instant)
    (record : Record)
    (s : MemoryStore) :
    Except StoreFault String → MemoryStore → Prop where
  | away
      (hAway : s.available = false) :
      Appends now record s (.error offline) s
  | failed
      {left : Nat}
      (hThere : s.available = true)
      (hFailing : s.failing = left + 1) :
      Appends now record s injected { s with failing := left }
  | added
      {streams : Dict (List Entry)}
      (hThere : s.available = true)
      (hFailing : s.failing = 0)
      (hStreams :
        streams =
          s.streams.insert record.stream
            (trim record.maxLength.toNat
              (s.entries record.stream ++
                [⟨entryId now s.sequence, record.fields⟩]))) :
      Appends now record s (.ok (entryId now s.sequence))
        { s with
          sequence := s.sequence + 1
          streams := streams }

theorem appends
    (now : Instant)
    (record : Record)
    (s : MemoryStore) :
    Appends now record s
      (s.append now record).1 (s.append now record).2 := by
  unfold append
  split_ifs with hAway hFailing
  · exact .away (by simpa using hAway)
  · obtain ⟨left, hLeft⟩ : ∃ left, s.failing = left + 1 :=
      Nat.exists_eq_succ_of_ne_zero hFailing
    rw [hLeft, Nat.add_sub_cancel]
    exact .failed (by simpa using hAway) hLeft
  · exact .added (by simpa using hAway) (not_not.mp hFailing) rfl

/- What a stream holds after an entry was added to some stream. -/
theorem entries_insert
    (s : MemoryStore)
    (stream other : String)
    (kept : List Entry)
    (sequence : Nat) :
    entries
        { s with
          sequence := sequence
          streams := s.streams.insert stream kept }
        other =
      if stream = other then kept else s.entries other := by
  simp only [entries, Dict.get?_insert]
  split_ifs with hSame
  · rfl
  · rfl

/- The entries of a stream are trimmed from the oldest on. -/
theorem trim_suffix
    (cap : Nat)
    (entries : List Entry) :
    trim cap entries <:+ entries := by
  unfold trim
  split_ifs with hNone
  · exact List.suffix_rfl
  · exact List.drop_suffix _ _

/- What is left of a stream that is trimmed are its latest entries. -/
theorem trim_eq_latest
    (cap : Nat)
    (entries : List Entry) :
    trim cap entries = latest cap entries :=
  rfl

/- To keep the latest of those that were kept is to keep the latest. -/
theorem rtake_rtake_append
    {m : Nat}
    (hSome : 0 < m)
    (entries : List Entry)
    (entry : Entry) :
    (entries.rtake m ++ [entry]).rtake m = (entries ++ [entry]).rtake m := by
  obtain ⟨k, rfl⟩ : ∃ k, m = k + 1 := ⟨m - 1, by omega⟩
  have hFewer : (entries.rtake (k + 1)).rtake k = entries.rtake k := by
    simp only [List.rtake, List.drop_drop, List.length_drop]
    congr 1
    omega
  rw [List.rtake_concat_succ, List.rtake_concat_succ, hFewer]

------------------------------------------------------------
-- Numbers
------------------------------------------------------------

/- The number in an id, behind the dash. -/
def numberOf
    (id : String) : Nat :=
  Nat.ofDigitChars 10 (id.toList.rtakeWhile fun c => c ≠ '-') 0

/- The number of an entry is in its id. -/
theorem numberOf_entryId
    (now : Instant)
    (sequence : Nat) :
    numberOf (entryId now sequence) = sequence := by
  have hDigits :
      ∀ c ∈ (Nat.toDigits 10 sequence).reverse, decide (c ≠ '-') = true := by
    intro c hDigit
    have hIsDigit :=
      Nat.isDigit_of_mem_toDigits (by decide) (by decide)
        (List.mem_reverse.mp hDigit)
    rw [decide_eq_true_iff]
    rintro rfl
    exact absurd hIsDigit (by decide)
  have hEnd :
      (entryId now sequence).toList =
        (Nat.repr (now.unixSeconds * 1000)).toList ++
          '-' :: Nat.toDigits 10 sequence := by
    simp [entryId, Nat.repr_eq_ofList_toDigits]
  rw [numberOf, hEnd, List.rtakeWhile, List.reverse_append,
    List.reverse_cons, List.append_assoc,
    List.takeWhile_append_of_pos hDigits]
  simp [Nat.ofDigitChars_ten_toDigits]

------------------------------------------------------------
-- Courses
------------------------------------------------------------

/- What may be done to a store. -/
inductive Operation where
  | append (now : Instant) (record : Record)
  | setAvailable (available : Bool)
  | failNextAppends (count : Nat)
  | setLatency (latency : Duration)
  | ping (limit : Duration)
  deriving DecidableEq

/- A record that was accepted, with the id that it was given. -/
structure Accepted where
  record : Record
  id : String
  deriving DecidableEq

namespace Accepted

/- The stream that a record went to. -/
def stream
    (a : Accepted) : String :=
  a.record.stream

/- The entry that a record became. -/
def entry
    (a : Accepted) : Entry :=
  ⟨a.id, a.record.fields⟩

/- The number of the entry. -/
def number
    (a : Accepted) : Nat :=
  numberOf a.id

end Accepted

/- A store, with what came of the appends so far. -/
structure Course where
  store : MemoryStore
  /- The records that were accepted, oldest first. -/
  accepted : List Accepted
  /- What was answered while the store was available. -/
  tried : List (Except StoreFault String)

namespace Course

/- A store that nobody has used yet. -/
def start : Course where
  store := .empty
  accepted := []
  tried := []

/- Note what came of an append that left the store in some state. -/
def noted
    (c : Course)
    (record : Record)
    (answer : Except StoreFault String)
    (after : MemoryStore) : Course where
  store := after
  accepted :=
    match answer with
    | .ok id => c.accepted ++ [⟨record, id⟩]
    | .error _ => c.accepted
  tried := if c.store.available then c.tried ++ [answer] else c.tried

/- Carry an operation out. -/
def next
    (c : Course) : Operation → Course
  | .append now record =>
      let (answer, after) := c.store.append now record
      c.noted record answer after
  | .setAvailable available =>
      { c with store := c.store.setAvailable available }
  | .failNextAppends count =>
      { c with store := c.store.failNextAppends count }
  | .setLatency latency =>
      { c with store := c.store.setLatency latency }
  | .ping limit =>
      { c with store := (MemoryStore.store.ping limit c.store).2 }

/- Carry operations out, one after the other. -/
def run
    (operations : List Operation) : Course :=
  operations.foldl next start

/- The entries of all records that a stream accepted. -/
def acceptedOn
    (c : Course)
    (stream : String) : List Entry :=
  (c.accepted.filter fun a => a.stream = stream).map Accepted.entry

------------------------------------------------------------
-- What a store holds
------------------------------------------------------------

/- What holds of a course at any time. -/
structure Settled
    (c : Course) : Prop where
  counted : c.store.sequence = c.accepted.length
  /- Records are numbered in the order in which they were accepted. -/
  numbered :
    c.accepted.map Accepted.number = List.range c.accepted.length
  /- A stream holds the last of the entries that it accepted. -/
  held : ∀ stream, c.store.entries stream <:+ c.acceptedOn stream
  /- It holds as many as its records say, if all say the same. -/
  full :
    ∀ stream m, 0 < m →
      (∀ a ∈ c.accepted, a.stream = stream →
        a.record.maxLength.toNat = m) →
      c.store.entries stream = (c.acceptedOn stream).rtake m

theorem settled_start :
    start.Settled where
  counted := rfl
  numbered := rfl
  held := fun _ => List.nil_suffix
  full := fun _ m _ _ => (List.rtake_nil m).symm

/- What was accepted on a stream, once one more record was. -/
theorem acceptedOn_append
    (c : Course)
    (a : Accepted)
    (store : MemoryStore)
    (tried : List (Except StoreFault String))
    (stream : String) :
    acceptedOn ⟨store, c.accepted ++ [a], tried⟩ stream =
      if a.stream = stream then c.acceptedOn stream ++ [a.entry]
      else c.acceptedOn stream := by
  simp only [acceptedOn, List.filter_append, List.map_append]
  split_ifs with hSame
  · simp [hSame]
  · simp [hSame]

/- An append keeps all this. -/
theorem Settled.noted
    {c : Course}
    (hSettled : c.Settled)
    {now : Instant}
    {record : Record}
    {answer : Except StoreFault String}
    {after : MemoryStore}
    (hAppends : Appends now record c.store answer after) :
    (c.noted record answer after).Settled := by
  cases hAppends with
  | away hAway =>
      exact
        ⟨hSettled.counted, hSettled.numbered, hSettled.held, hSettled.full⟩
  | failed hThere hFailing =>
      exact
        ⟨hSettled.counted, hSettled.numbered, hSettled.held, hSettled.full⟩
  | added hThere hFailing hStreams =>
      subst hStreams
      let new : Accepted := ⟨record, entryId now c.store.sequence⟩
      constructor
      · simp [Course.noted, hSettled.counted]
      · simp only [Course.noted]
        rw [List.map_append, hSettled.numbered, List.length_append,
          List.length_singleton, List.range_succ]
        simp [Accepted.number, numberOf_entryId, hSettled.counted]
      · intro stream
        simp only [Course.noted]
        rw [entries_insert, acceptedOn_append]
        by_cases hStream : record.stream = stream
        · subst hStream
          have hSame : new.stream = record.stream := rfl
          rw [if_pos rfl, if_pos hSame]
          have hKept :=
            trim_suffix record.maxLength.toNat
              (c.store.entries record.stream ++ [new.entry])
          rcases hSettled.held record.stream with ⟨gone, hHeld⟩
          refine hKept.trans ⟨gone, ?_⟩
          rw [← List.append_assoc, hHeld]
        · have hOther : ¬ new.stream = stream := hStream
          rw [if_neg hStream, if_neg hOther]
          exact hSettled.held stream
      · intro stream m hSome hCaps
        simp only [Course.noted] at hCaps ⊢
        have hBefore :=
          hSettled.full stream m hSome fun a hMember =>
            hCaps a (List.mem_append_left _ hMember)
        rw [entries_insert, acceptedOn_append]
        by_cases hStream : record.stream = stream
        · subst hStream
          have hSame : new.stream = record.stream := rfl
          have hCap : record.maxLength.toNat = m :=
            hCaps new (List.mem_append_right _ (List.mem_singleton.mpr rfl))
              rfl
          have hNotNone : ¬ m = 0 := by omega
          rw [if_pos rfl, if_pos hSame, hCap, trim_eq_latest, latest,
            if_neg hNotNone, hBefore]
          exact rtake_rtake_append hSome _ new.entry
        · have hOther : ¬ new.stream = stream := hStream
          rw [if_neg hStream, if_neg hOther]
          exact hBefore

/- So does every operation. -/
theorem Settled.next
    {c : Course}
    (hSettled : c.Settled)
    (operation : Operation) :
    (c.next operation).Settled := by
  cases operation with
  | append now record => exact hSettled.noted (appends now record c.store)
  | setAvailable available =>
      exact
        ⟨hSettled.counted, hSettled.numbered, hSettled.held, hSettled.full⟩
  | failNextAppends count =>
      exact
        ⟨hSettled.counted, hSettled.numbered, hSettled.held, hSettled.full⟩
  | setLatency latency =>
      exact
        ⟨hSettled.counted, hSettled.numbered, hSettled.held, hSettled.full⟩
  | ping limit => exact hSettled

theorem settled_run
    (operations : List Operation) :
    (run operations).Settled := by
  induction operations using List.reverseRecOn with
  | nil => exact settled_start
  | append_singleton earlier operation ih =>
      rw [run, List.foldl_append]
      exact ih.next operation

/- The numbers of accepted records increase. -/
theorem Settled.increasing
    {c : Course}
    (hSettled : c.Settled) :
    c.accepted.Pairwise fun a b => a.number < b.number := by
  have hRange := List.pairwise_lt_range (n := c.accepted.length)
  rw [← hSettled.numbered] at hRange
  exact List.pairwise_map.mp hRange

/- An entry of a stream is that of a record that it accepted. -/
theorem Settled.exists_accepted
    {c : Course}
    (hSettled : c.Settled)
    {stream : String}
    {e : Entry}
    (hEntry : e ∈ c.store.entries stream) :
    ∃ a ∈ c.accepted, a.stream = stream ∧ a.entry = e := by
  have hAccepted := (hSettled.held stream).subset hEntry
  rcases List.mem_map.mp hAccepted with ⟨a, hMember, rfl⟩
  rcases List.mem_filter.mp hMember with ⟨hThere, hStream⟩
  exact ⟨a, hThere, of_decide_eq_true hStream, rfl⟩

/- Along a stream the numbers of entries increase. -/
theorem Settled.entries_increasing
    {c : Course}
    (hSettled : c.Settled)
    (stream : String) :
    (c.store.entries stream).Pairwise fun a b =>
      numberOf a.id < numberOf b.id := by
  have hAll :
      (c.acceptedOn stream).Pairwise fun a b =>
        numberOf a.id < numberOf b.id :=
    List.pairwise_map.mpr (hSettled.increasing.filter _)
  exact hAll.sublist (hSettled.held stream).sublist

/- Entries of different streams have different numbers. -/
theorem Settled.entries_apart
    {c : Course}
    (hSettled : c.Settled)
    {stream other : String}
    (hStreams : stream ≠ other)
    {a b : Entry}
    (hEntry : a ∈ c.store.entries stream)
    (hOther : b ∈ c.store.entries other) :
    numberOf a.id ≠ numberOf b.id := by
  rcases hSettled.exists_accepted hEntry with ⟨x, hx, hxStream, rfl⟩
  rcases hSettled.exists_accepted hOther with ⟨y, hy, hyStream, rfl⟩
  intro hSame
  have hOnce : (c.accepted.map Accepted.number).Nodup := by
    rw [hSettled.numbered]
    exact List.nodup_range
  have hRecord : x = y := List.inj_on_of_nodup_map hOnce hx hy hSame
  exact hStreams (hxStream.symm.trans (hRecord ▸ hyStream))

------------------------------------------------------------
-- Injected failures
------------------------------------------------------------

/-
  Between two times, the appends that were tried while the
  store was available used failures up, one each, as long as
  there were any.
-/
def Spends
    (before after : Course) : Prop :=
  ∃ answers,
    after.tried = before.tried ++ answers ∧
    (∀ answer ∈ answers.take before.store.failing, answer = injected) ∧
    (∀ answer ∈ answers.drop before.store.failing,
      ∃ id, answer = .ok id) ∧
    after.store.failing = before.store.failing - answers.length

theorem spends_refl
    (c : Course) :
    Spends c c :=
  ⟨[], by simp⟩

/- Nothing else than an append uses a failure up. -/
theorem Spends.of_same
    {before c c' : Course}
    (hSpends : Spends before c)
    (hTried : c'.tried = c.tried)
    (hFailing : c'.store.failing = c.store.failing) :
    Spends before c' := by
  rcases hSpends with ⟨answers, hAnswers, hFirst, hRest, hLeft⟩
  exact
    ⟨answers, hTried.trans hAnswers, hFirst, hRest, hFailing.trans hLeft⟩

/- An append uses one up if it is tried and there is any. -/
theorem Spends.noted
    {before c : Course}
    (hSpends : Spends before c)
    {now : Instant}
    {record : Record}
    {answer : Except StoreFault String}
    {after : MemoryStore}
    (hAppends : Appends now record c.store answer after) :
    Spends before (c.noted record answer after) := by
  cases hAppends with
  | away hAway =>
      apply hSpends.of_same
      · simp [Course.noted, hAway]
      · rfl
  | @failed left hThere hFailing =>
      rcases hSpends with ⟨answers, hAnswers, hFirst, hRest, hLeft⟩
      -- There are failures left, so all answers so far used one up.
      have hFew : answers.length + 1 ≤ before.store.failing := by omega
      refine ⟨answers ++ [injected], ?_, ?_, ?_, ?_⟩
      · simp [Course.noted, hThere, hAnswers]
      · intro answer hAnswer
        rcases List.mem_append.mp (List.mem_of_mem_take hAnswer) with
          hOld | hNew
        · apply hFirst
          rwa [List.take_of_length_le (by omega)]
        · exact List.mem_singleton.mp hNew
      · rw [List.drop_of_length_le (by simpa using hFew)]
        simp
      · simp only [Course.noted, List.length_append, List.length_singleton]
        omega
  | added hThere hFailing hStreams =>
      rcases hSpends with ⟨answers, hAnswers, hFirst, hRest, hLeft⟩
      have hMany : before.store.failing ≤ answers.length := by omega
      refine
        ⟨answers ++ [.ok (entryId now c.store.sequence)], ?_, ?_, ?_, ?_⟩
      · simp [Course.noted, hThere, hAnswers]
      · rw [List.take_append_of_le_length hMany]
        exact hFirst
      · rw [List.drop_append_of_le_length hMany]
        intro answer hAnswer
        rcases List.mem_append.mp hAnswer with hOld | hNew
        · exact hRest answer hOld
        · exact ⟨_, List.mem_singleton.mp hNew⟩
      · simp only [Course.noted, List.length_append, List.length_singleton]
        omega

/- What an operation does to the failures that are left. -/
theorem Spends.next
    {before c : Course}
    (hSpends : Spends before c)
    {operation : Operation}
    (hNoMore : ∀ count, operation ≠ .failNextAppends count) :
    Spends before (c.next operation) := by
  cases operation with
  | append now record => exact hSpends.noted (appends now record c.store)
  | setAvailable available => exact hSpends.of_same rfl rfl
  | failNextAppends count => exact absurd rfl (hNoMore count)
  | setLatency latency => exact hSpends.of_same rfl rfl
  | ping limit => exact hSpends.of_same rfl rfl

theorem Spends.run
    {before c : Course}
    (hSpends : Spends before c)
    {more : List Operation}
    (hNoMore :
      ∀ operation ∈ more, ∀ count, operation ≠ .failNextAppends count) :
    Spends before (more.foldl Course.next c) := by
  induction more generalizing c with
  | nil => exact hSpends
  | cons operation rest ih =>
      have hNext := hSpends.next (hNoMore operation List.mem_cons_self)
      exact ih hNext fun other hOther =>
        hNoMore other (List.mem_cons_of_mem _ hOther)

------------------------------------------------------------
-- The newest entries
------------------------------------------------------------

/-
  Whatever was done to a store before:
    * an append that fails changes no stream;
    * an append that succeeds leaves the latest of the old
      entries and the new one on its stream, as many as its
      record says, and every other stream as it was;
    * no other operation changes a stream;
    * a stream all of whose records say the same number holds
      exactly that many of the latest that it accepted;
    * the numbers in the ids of entries increase along each
      stream, and those of different streams are different;
    * over all streams, the accepted records are numbered one
      after the other;
    * failures that are set up replace those that were left,
      and until that happens again they are used up one by
      one, by the appends that are tried while the store is
      available, and by nothing else.
-/
theorem newest_retained
    (operations : List Operation) :
    let c := run operations
    (∀ now record,
      let answer := (c.store.append now record).1
      let after := (c.store.append now record).2
      (∀ fault, answer = .error fault →
        ∀ stream, after.entries stream = c.store.entries stream) ∧
      ∀ id, answer = .ok id →
        after.entries record.stream =
            latest record.maxLength.toNat
              (c.store.entries record.stream ++ [⟨id, record.fields⟩]) ∧
          ∀ stream, stream ≠ record.stream →
            after.entries stream = c.store.entries stream) ∧
    (∀ operation,
      (∀ now record, operation ≠ .append now record) →
      ∀ stream,
        (c.next operation).store.entries stream =
          c.store.entries stream) ∧
    (∀ stream m, 0 < m →
      (∀ a ∈ c.accepted, a.stream = stream →
        a.record.maxLength.toNat = m) →
      c.store.entries stream = (c.acceptedOn stream).rtake m) ∧
    (∀ stream,
      (c.store.entries stream).Pairwise fun a b =>
        numberOf a.id < numberOf b.id) ∧
    (∀ stream other, stream ≠ other →
      ∀ a ∈ c.store.entries stream, ∀ b ∈ c.store.entries other,
        numberOf a.id ≠ numberOf b.id) ∧
    c.accepted.map Accepted.number = List.range c.accepted.length ∧
    (∀ count, (c.next (.failNextAppends count)).store.failing = count) ∧
    ∀ more,
      (∀ operation ∈ more, ∀ count,
        operation ≠ .failNextAppends count) →
      Spends c (run (operations ++ more)) := by
  intro c
  have hSettled : c.Settled := settled_run operations
  refine
    ⟨?_, ?_, hSettled.full, hSettled.entries_increasing, ?_,
      hSettled.numbered, fun _ => rfl, ?_⟩
  · intro now record answer after
    have hAppends : Appends now record c.store answer after :=
      appends now record c.store
    generalize answer = answer, after = after at hAppends
    cases hAppends with
    | away hAway =>
        exact ⟨fun _ _ _ => rfl, fun id hAnswer => by cases hAnswer⟩
    | failed hThere hFailing =>
        exact ⟨fun _ _ _ => rfl, fun id hAnswer => by cases hAnswer⟩
    | added hThere hFailing hStreams =>
        subst hStreams
        refine ⟨fun fault hAnswer => (by cases hAnswer), ?_⟩
        intro id hAnswer
        cases hAnswer
        refine ⟨?_, ?_⟩
        · rw [entries_insert, if_pos rfl, trim_eq_latest]
        · intro stream hOther
          rw [entries_insert, if_neg (Ne.symm hOther)]
  · intro operation hOther stream
    cases operation with
    | append now record => exact absurd rfl (hOther now record)
    | setAvailable available => rfl
    | failNextAppends count => rfl
    | setLatency latency => rfl
    | ping limit => rfl
  · intro stream other hStreams a hEntry b hOther
    exact hSettled.entries_apart hStreams hEntry hOther
  · intro more hNoMore
    rw [run, List.foldl_append]
    exact (spends_refl c).run hNoMore

/- A record without fields. -/
def blank
    (stream : String)
    (maxLength : UInt64) : Record :=
  { stream := stream
    maxLength := maxLength
    fields := .empty }

/-
  Two streams fill up, an append is made to fail, and the
  store is away for another one.
-/
def worn : List Operation :=
  [ .append ⟨0⟩ (blank "s" 2), .append ⟨0⟩ (blank "t" 0)
  , .append ⟨0⟩ (blank "s" 2), .failNextAppends 1
  , .setAvailable false, .append ⟨0⟩ (blank "s" 2)
  , .setAvailable true, .append ⟨0⟩ (blank "s" 2)
  , .append ⟨0⟩ (blank "s" 2) ]

/- The stream keeps the latest two of the three that it accepted. -/
theorem worn_newest_retained :
    0 < 2 ∧
    (∀ a ∈ (run worn).accepted, a.stream = "s" →
      a.record.maxLength.toNat = 2) ∧
    (run worn).store.entries "s" =
      ((run worn).acceptedOn "s").rtake 2 ∧
    ((run worn).acceptedOn "s").map (fun e => numberOf e.id) = [0, 2, 3] ∧
    Spends (run (worn.take 4)) (run worn) ∧
    (run worn).store.failing = 0 := by
  have hCaps :
      ∀ a ∈ (run worn).accepted, a.stream = "s" →
        a.record.maxLength.toNat = 2 := by
    decide
  have hNoMore :
      ∀ operation ∈ worn.drop 4, ∀ count,
        operation ≠ .failNextAppends count := by
    simp [worn]
  have hRetained := newest_retained worn
  have hSpent := newest_retained (worn.take 4)
  exact
    ⟨by decide, hCaps, hRetained.2.2.1 "s" 2 (by decide) hCaps, by decide,
      hSpent.2.2.2.2.2.2.2 (worn.drop 4) hNoMore, by decide⟩

end Course

end Courier.MemoryStore
