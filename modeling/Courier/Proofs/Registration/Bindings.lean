import Courier.Proofs.Pool
import Courier.Proofs.Registration.Traffic
import Mathlib.Tactic.Abel

/-
  No binding is lost or given up twice on a registry, in
  whatever order its calls take their steps, however callbacks
  come out, and also when the lock on the table is left
  poisoned meanwhile.  All bindings that were made are those
  of the table, those that calls are about to install or to
  give up, and those that were given up, each of them once.

  Key definitions include:
    * `Call.Settling`
    * `Traffic.Kept`
    * `Traffic.Place`, `Traffic.OnlyIn`

  Main statements:
    * `Call.owned_goes`, `Call.Settling.goes`
    * `Traffic.Kept.step`, `Traffic.Reachable.kept`
    * `Traffic.bound_only_in_one_place`
-/

namespace Courier.Registration

variable {H B : Type}

------------------------------------------------------------
-- Steps of a call
------------------------------------------------------------

namespace Call

section Goes

variable [DecidableEq H]
variable {r r' : Registry H B}
variable {c c' : Call H B}
variable {happening : Option (Happening H B)}

/-
  A step moves bindings between the call and the table.  A
  binding comes only by being made, and goes only by being
  given up.
-/
theorem owned_goes
    (hGoes : c.Goes r happening c' r') :
    c'.owned + r'.bindings +
        ((happening.bind Happening.unbound?).toList : Multiset B) =
      c.owned + r.bindings +
        ((happening.bind Happening.bound?).toList : Multiset B) := by
  cases hGoes with
  | access a =>
      have hMoved := owned_accessed (accessed a r)
      simpa [owned] using hMoved
  | cancel handler next outcome =>
      rw [owned_cancelled]
      rfl
  | bind key handler old outcome =>
      cases outcome with
      | ok b =>
          simp [bound, owned, Access.owned, Happening.unbound?,
            Happening.bound?, add_comm]
      | error fault =>
          cases old <;>
            simp [bound, owned, Access.owned, Happening.unbound?,
              Happening.bound?]
  | unbind b next outcome =>
      rw [owned_unbound]
      simp only [owned, Option.bind_some,
        Happening.unbound?, Happening.bound?, Option.toList_some,
        Option.toList_none, Multiset.coe_nil, Multiset.coe_singleton,
        ← Multiset.singleton_add]
      abel

/- What a step makes a call put in, its callback made. -/
theorem unplaced?_goes
    (hGoes : c.Goes r happening c' r')
    {key : Key}
    {v : Subscription H B}
    (hUnplaced : c'.unplaced? = some (key, v)) :
    happening = some (.bind key v.handler (.ok v.binding)) := by
  cases hGoes with
  | access a =>
      rw [unplaced?_accessed (accessed a r)] at hUnplaced
      exact absurd hUnplaced nofun
  | cancel handler next outcome =>
      rw [unplaced?_cancelled] at hUnplaced
      exact absurd hUnplaced nofun
  | bind key handler old outcome =>
      cases outcome with
      | ok b =>
          cases hUnplaced
          rfl
      | error fault =>
          cases old with
          | none => exact absurd hUnplaced nofun
          | some h => exact absurd hUnplaced nofun
  | unbind b next outcome =>
      rw [unplaced?_unbound] at hUnplaced
      exact absurd hUnplaced nofun

/-
  After a step a key has no other subscription than before,
  but for the one that the call was to put in.
-/
theorem get?_goes
    (hGoes : c.Goes r happening c' r')
    {key : Key}
    {v : Subscription H B}
    (hFound : r'.table.get? key = some v) :
    r.table.get? key = some v ∨ c.unplaced? = some (key, v) := by
  cases hGoes with
  | access a => exact get?_accessed (accessed a r) hFound
  | cancel handler next outcome => exact Or.inl hFound
  | bind key handler old outcome => exact Or.inl hFound
  | unbind b next outcome => exact Or.inl hFound

end Goes

------------------------------------------------------------
-- Calls that made a binding
------------------------------------------------------------

/-
  A call that made a binding has yet to put it in, or to give
  it up before it returns a fault, or returns none.
-/
def Settling
    (b : B) : Call H B → Prop
  | accessing (.install _ _ b' _) => b' = b
  | cancelling _ (.unbindReplaced _) => True
  | unbinding b' (.answer result) => b' = b ∨ result = .ok ()
  | done result => result = .ok ()
  | _ => False

/- It stays such a call when it accesses the table. -/
theorem Settling.accessed
    [DecidableEq H]
    {a : Access H B}
    {c : Call H B}
    {r r' : Registry H B}
    {b : B}
    (hAccessed : Accessed r a c r')
    (hSettling : (accessing a).Settling b) :
    c.Settling b := by
  cases hAccessed with
  | refused a hPoisoned =>
      cases a with
      | install key handler b' old => exact Or.inl hSettling
      | find key handler => exact hSettling.elim
      | retract key old fault => exact hSettling.elim
      | remove key => exact hSettling.elim
      | drain => exact hSettling.elim
  | added hFree => exact rfl
  | replaced hTaken =>
      unfold replaced
      split
      · exact Or.inr rfl
      · exact trivial
  | free hFree => exact hSettling.elim
  | taken hTaken => exact hSettling.elim
  | retracted hTaken => exact hSettling.elim
  | kept hOther => exact hSettling.elim
  | removed hTaken => exact hSettling.elim
  | missing hFree => exact hSettling.elim
  | drained => exact hSettling.elim

/- It stays such a call, unless it gives the binding up. -/
theorem Settling.goes
    [DecidableEq H]
    {r r' : Registry H B}
    {c c' : Call H B}
    {happening : Option (Happening H B)}
    {b : B}
    (hSettling : c.Settling b)
    (hGoes : c.Goes r happening c' r') :
    c'.Settling b ∨ b ∈ happening.bind Happening.unbound? := by
  cases hGoes with
  | access a => exact Or.inl (Settling.accessed (Call.accessed a r) hSettling)
  | cancel handler next outcome =>
      left
      cases next with
      | unbindReplaced b' => exact Or.inr rfl
      | bind key new => exact hSettling.elim
      | unbindRemoved b' => exact hSettling.elim
      | unbindDrained b' rest => exact hSettling.elim
  | bind key handler old outcome => exact hSettling.elim
  | unbind b' next outcome =>
      cases next with
      | answer result =>
          rcases hSettling with hSame | hOk
          · right
            rw [hSame]
            exact rfl
          · exact Or.inl hOk
      | report cancelled => exact hSettling.elim
      | goOn rest => exact hSettling.elim

end Call

------------------------------------------------------------
-- Bindings that are kept
------------------------------------------------------------

namespace Traffic

/- A callback made the binding of a subscription, for its key. -/
def Bound
    (s : Traffic H B)
    (key : Key)
    (v : Subscription H B) : Prop :=
  ∃ i, (i, .bind key v.handler (.ok v.binding)) ∈ s.log

/- The bindings that calls are about to install or to give up. -/
def owned
    (s : Traffic H B) : Multiset B :=
  (s.calls.map (·.2.owned)).sum

/- The bindings that one call is about to install or to give up. -/
def ownedBy
    (s : Traffic H B)
    (i : Nat) : Multiset B :=
  match s.calls[i]? with
  | some (_, call) => call.owned
  | none => 0

/- What holds of the bindings at any time. -/
structure Kept (s : Traffic H B) : Prop where
  /- No binding was made twice. -/
  nodup : s.bound.Nodup
  /- Each binding is somewhere, and none is in two places. -/
  conserved :
    s.registry.bindings + s.owned + s.unbound =
      (s.bound : Multiset B)
  /- The binding of a subscription was made for its key. -/
  present :
    ∀ {key v}, s.registry.table.get? key = some v → s.Bound key v
  unplaced :
    ∀ {c}, c ∈ s.calls →
      ∀ {key v}, c.2.unplaced? = some (key, v) → s.Bound key v
  /- A call that made a binding will put it in or give it up. -/
  settling :
    ∀ {i : Nat} {key handler b},
      (i, .bind key handler (.ok b)) ∈ s.log →
      b ∈ s.unbound ∨
        ∃ request call,
          s.calls[i]? = some (request, call) ∧ call.Settling b

theorem kept_start :
    (start : Traffic H B).Kept where
  nodup := List.nodup_nil
  conserved := rfl
  present := nofun
  unplaced := nofun
  settling := nofun

/- The bindings that were made, after one more callback. -/
theorem bound_append
    (s : Traffic H B)
    (i : Nat)
    (happening : Option (Happening H B)) :
    (s.log ++ happening.toList.map (i, ·)).filterMap (·.2.bound?) =
      s.bound ++ (happening.bind Happening.bound?).toList := by
  rw [List.filterMap_append]
  rcases happening with _ | happening
  · rfl
  · cases h : happening.bound? <;> simp [bound, h]

/- The bindings that were given up, after one more callback. -/
theorem unbound_append
    (s : Traffic H B)
    (i : Nat)
    (happening : Option (Happening H B)) :
    (s.log ++ happening.toList.map (i, ·)).filterMap (·.2.unbound?) =
      s.unbound ++ (happening.bind Happening.unbound?).toList := by
  rw [List.filterMap_append]
  rcases happening with _ | happening
  · rfl
  · cases h : happening.unbound? <;> simp [unbound, h]

/- A binding that was made stands in the log. -/
theorem mem_bound_iff
    {s : Traffic H B}
    {b : B} :
    b ∈ s.bound ↔
      ∃ i key handler, (i, .bind key handler (.ok b)) ∈ s.log := by
  unfold bound
  rw [List.mem_filterMap]
  constructor
  · rintro ⟨⟨i, happening⟩, hLog, hBound⟩
    rcases happening with _ | ⟨key, handler, _ | b'⟩ | _
    · exact absurd hBound nofun
    · exact absurd hBound nofun
    · cases hBound
      exact ⟨i, key, handler, hLog⟩
    · exact absurd hBound nofun
  · rintro ⟨i, key, handler, hLog⟩
    exact ⟨_, hLog, rfl⟩

/- A subscription that was bound once was bound for good. -/
theorem Bound.mono
    {s s' : Traffic H B}
    {key : Key}
    {v : Subscription H B}
    (hBound : s.Bound key v)
    (hLog : s.log ⊆ s'.log) :
    s'.Bound key v := by
  rcases hBound with ⟨i, hMember⟩
  exact ⟨i, hLog hMember⟩

/- No two callbacks made one binding. -/
theorem Kept.unique
    {s : Traffic H B}
    (hKept : s.Kept)
    {i j : Nat}
    {key key' : Key}
    {handler handler' : H}
    {b : B}
    (hFirst : (i, .bind key handler (.ok b)) ∈ s.log)
    (hSecond : (j, .bind key' handler' (.ok b)) ∈ s.log) :
    key = key' ∧ handler = handler' := by
  have hPairs := List.pairwise_filterMap.mp hKept.nodup
  have hSymm :
      Std.Symm fun x y : Nat × Happening H B =>
        ∀ b, x.2.bound? = some b → ∀ b', y.2.bound? = some b' → b ≠ b' :=
    ⟨fun x y hApart b hb b' hb' => (hApart b' hb' b hb).symm⟩
  by_contra hOther
  have hNe :
      (i, Happening.bind key handler (.ok b)) ≠
        (j, .bind key' handler' (.ok b)) := by
    intro hSame
    cases hSame
    exact hOther ⟨rfl, rfl⟩
  exact hPairs.forall hFirst hSecond hNe b rfl b rfl rfl

/- What a call made that returned a fault was given up. -/
theorem Kept.unbound_of_fault
    {s : Traffic H B}
    (hKept : s.Kept)
    {i : Nat}
    {key : Key}
    {handler : H}
    {b : B}
    (hMade : (i, .bind key handler (.ok b)) ∈ s.log)
    {request : Request H}
    {fault : Fault}
    (hAt : s.calls[i]? = some (request, .done (.error fault))) :
    b ∈ s.unbound := by
  rcases hKept.settling hMade with hUnbound | ⟨_, call, hCall, hSettling⟩
  · exact hUnbound
  · rw [hAt] at hCall
    cases hCall
    exact absurd hSettling nofun

------------------------------------------------------------
-- Steps
------------------------------------------------------------

section Steps

variable [DecidableEq H]

/- A call that made a binding goes on to put it in or give it up. -/
theorem Kept.settling_advance
    {s : Traffic H B}
    (hKept : s.Kept)
    {i : Nat}
    {request : Request H}
    {call call' : Call H B}
    {r : Registry H B}
    {happening : Option (Happening H B)}
    (hAt : s.calls[i]? = some (request, call))
    (hGoes : call.Goes s.registry happening call' r)
    {j : Nat}
    {key : Key}
    {handler : H}
    {b : B}
    (hMember :
      (j, .bind key handler (.ok b)) ∈
        s.log ++ happening.toList.map (i, ·)) :
    b ∈ (s.log ++ happening.toList.map (i, ·)).filterMap
          (·.2.unbound?) ∨
      ∃ request' c,
        (s.calls.set i (request, call'))[j]? = some (request', c) ∧
          c.Settling b := by
  have hLength := (List.getElem?_eq_some_iff.mp hAt).1
  have hGone :
      b ∈ s.unbound ∨ b ∈ happening.bind Happening.unbound? →
        b ∈ (s.log ++ happening.toList.map (i, ·)).filterMap
          (·.2.unbound?) := by
    intro hUnbound
    rw [unbound_append, List.mem_append, Option.mem_toList]
    exact hUnbound
  rcases List.mem_append.mp hMember with hOld | hNow
  · rcases hKept.settling hOld with
      hUnbound | ⟨request', c, hAt', hSettling⟩
    · exact Or.inl (hGone (Or.inl hUnbound))
    · by_cases hSame : i = j
      · subst hSame
        rw [hAt] at hAt'
        cases hAt'
        rcases hSettling.goes hGoes with hStill | hUnbound
        · right
          exact ⟨request, call', List.getElem?_set_self hLength, hStill⟩
        · exact Or.inl (hGone (Or.inr hUnbound))
      · right
        exact ⟨request', c,
          (List.getElem?_set_ne hSame).trans hAt', hSettling⟩
  · right
    cases hGoes with
    | bind k h old outcome =>
        cases List.mem_singleton.mp hNow
        exact ⟨request, _, List.getElem?_set_self hLength, rfl⟩
    | access a => exact absurd hNow List.not_mem_nil
    | cancel h next outcome =>
        exact absurd (List.mem_singleton.mp hNow) nofun
    | unbind b' next outcome =>
        exact absurd (List.mem_singleton.mp hNow) nofun

/- A call takes a step. -/
theorem Kept.advance
    {s : Traffic H B}
    (hKept : s.Kept)
    {i : Nat}
    {request : Request H}
    {call call' : Call H B}
    {r : Registry H B}
    {happening : Option (Happening H B)}
    (hAt : s.calls[i]? = some (request, call))
    (hGoes : call.Goes s.registry happening call' r)
    (hNew : ∀ b ∈ happening.bind Happening.bound?, b ∉ s.bound) :
    Kept
      { registry := r
        calls := s.calls.set i (request, call')
        log := s.log ++ happening.toList.map (i, ·) } := by
  have hCall := List.mem_of_getElem? hAt
  have hLog : s.log ⊆ s.log ++ happening.toList.map (i, ·) :=
    List.subset_append_left _ _
  constructor
  · -- nodup
    unfold bound
    rw [bound_append, List.nodup_append']
    refine ⟨hKept.nodup, ?_, ?_⟩
    · cases happening.bind Happening.bound? <;> simp
    · intro b hOld hMade
      exact hNew b (Option.mem_toList.mp hMade) hOld
  · -- conserved
    unfold bound unbound owned
    rw [bound_append, unbound_append, ← Multiset.coe_add,
      ← Multiset.coe_add]
    exact
      Pool.balanced_set (fun c : Request H × Call H B => c.2.owned)
        hAt (Call.owned_goes hGoes) hKept.conserved
  · -- present
    intro key v hFound
    rcases Call.get?_goes hGoes hFound with hOld | hUnplaced
    · exact (hKept.present hOld).mono hLog
    · exact (hKept.unplaced hCall hUnplaced).mono hLog
  · -- unplaced
    intro c hMember key v hUnplaced
    rcases List.mem_or_eq_of_mem_set hMember with hOther | hSelf
    · exact (hKept.unplaced hOther hUnplaced).mono hLog
    · subst hSelf
      have hMade := Call.unplaced?_goes hGoes hUnplaced
      exact ⟨i, by simp [hMade]⟩
  · exact hKept.settling_advance hAt hGoes

/- All this holds after each step. -/
theorem Kept.step
    {s s' : Traffic H B}
    (hKept : s.Kept)
    (hStep : Step s s') :
    s'.Kept := by
  cases hStep with
  | ask request =>
      constructor
      · exact hKept.nodup
      · have hOwned :
            Traffic.owned
                { s with calls := s.calls ++ [(request, .start request)] } =
              s.owned := by
          simp [owned, Call.owned_start]
        rw [hOwned]
        exact hKept.conserved
      · exact hKept.present
      · intro c hMember key v hUnplaced
        rcases List.mem_append.mp hMember with hOld | hNew
        · exact hKept.unplaced hOld hUnplaced
        · rw [List.mem_singleton.mp hNew,
            Call.unplaced?_start request] at hUnplaced
          exact absurd hUnplaced nofun
      · intro i key handler b hMade
        rcases hKept.settling hMade with
          hUnbound | ⟨request', call, hAt, hSettling⟩
        · exact Or.inl hUnbound
        · have hBound := (List.getElem?_eq_some_iff.mp hAt).1
          exact Or.inr ⟨request', call,
            (List.getElem?_append_left hBound).trans hAt, hSettling⟩
  | advance i hAt hGoes hNew => exact hKept.advance hAt hGoes hNew
  | poison =>
      exact ⟨hKept.nodup, hKept.conserved, hKept.present,
        hKept.unplaced, hKept.settling⟩
  | reorder hReordered =>
      constructor
      · exact hKept.nodup
      · have hConserved := hKept.conserved
        rw [← bindings_eq_of_reordered hReordered] at hConserved
        exact hConserved
      · intro key v hFound
        rw [Table.get?_eq_of_reordered hReordered.1] at hFound
        exact hKept.present hFound
      · exact hKept.unplaced
      · exact hKept.settling

theorem Reachable.kept
    {first s : Traffic H B}
    (hReachable : Reachable first s)
    (hKept : first.Kept) :
    s.Kept := by
  induction hReachable with
  | start => exact hKept
  | step _ hStep ih => exact ih.step hStep

end Steps

------------------------------------------------------------
-- Places
------------------------------------------------------------

/- Where a binding can be. -/
inductive Place where
  /- The call with a number is about to install it or to give it up. -/
  | held (call : Nat)
  /- It feeds a subscription in the table. -/
  | registered
  /- It was given up. -/
  | unbound
  deriving DecidableEq, Repr

section Places

variable [DecidableEq B]

/- How often a binding is in a place. -/
def countIn
    (s : Traffic H B)
    (place : Place)
    (b : B) : Nat :=
  match place with
  | .held i => (s.ownedBy i).count b
  | .registered => s.registry.bindings.count b
  | .unbound => s.unbound.count b

/- A binding is in one place, once, and nowhere else. -/
def OnlyIn
    (s : Traffic H B)
    (place : Place)
    (b : B) : Prop :=
  s.countIn place b = 1 ∧ ∀ other, other ≠ place → s.countIn other b = 0

/- A binding is counted with the call that holds it. -/
theorem countIn_held
    (s : Traffic H B)
    (i : Nat)
    (b : B) :
    s.countIn (.held i) b =
      (s.calls[i]?.map fun c => c.2.owned.count b).getD 0 := by
  simp only [countIn, ownedBy]
  cases s.calls[i]? with
  | none => rfl
  | some c => rfl

/- A binding that was made is counted once in all. -/
theorem Kept.count_eq_one
    {s : Traffic H B}
    (hKept : s.Kept)
    {b : B}
    (hMade : b ∈ s.bound) :
    s.countIn .registered b +
        (s.calls.map fun c => c.2.owned.count b).sum +
        s.countIn .unbound b = 1 := by
  have hOwned :
      s.owned.count b = (s.calls.map fun c => c.2.owned.count b).sum := by
    have hSum :=
      map_list_sum (Multiset.countAddMonoidHom b)
        (s.calls.map fun c => c.2.owned)
    rw [List.map_map] at hSum
    exact hSum
  have hOnce : s.bound.count b = 1 :=
    List.count_eq_one_of_mem hKept.nodup hMade
  have hCount := congrArg (Multiset.count b) hKept.conserved
  rw [Multiset.coe_count, hOnce, Multiset.count_add, Multiset.count_add,
    Multiset.coe_count, hOwned] at hCount
  exact hCount

/- A binding that was made is in one place only. -/
theorem Kept.exists_onlyIn
    {s : Traffic H B}
    (hKept : s.Kept)
    {b : B}
    (hMade : b ∈ s.bound) :
    ∃ place, s.OnlyIn place b := by
  have hTotal := hKept.count_eq_one hMade
  by_cases hNone : (s.calls.map fun c => c.2.owned.count b).sum = 0
  · have hHeld : ∀ i, s.countIn (.held i) b = 0 := by
      intro i
      rw [countIn_held]
      exact Pool.eq_zero_of_sum_map_eq_zero hNone i
    by_cases hRegistered : s.countIn .registered b = 1
    · refine ⟨.registered, hRegistered, ?_⟩
      intro other hOther
      cases other with
      | held i => exact hHeld i
      | registered => exact absurd rfl hOther
      | unbound => omega
    · refine ⟨.unbound, by omega, ?_⟩
      intro other hOther
      cases other with
      | held i => exact hHeld i
      | registered => omega
      | unbound => exact absurd rfl hOther
  · have hSum : (s.calls.map fun c => c.2.owned.count b).sum = 1 := by
      omega
    rcases Pool.exists_only_of_sum_map_eq_one hSum with
      ⟨i, hOnce, hOthers⟩
    refine ⟨.held i, by rw [countIn_held]; exact hOnce, ?_⟩
    intro other hOther
    cases other with
    | held j =>
        rw [countIn_held]
        exact hOthers j (fun hSame => hOther (by rw [hSame]))
    | registered => omega
    | unbound => omega

/- A binding that is counted in a place is in no other. -/
theorem Kept.onlyIn_of_pos
    {s : Traffic H B}
    (hKept : s.Kept)
    {b : B}
    (hMade : b ∈ s.bound)
    {place : Place}
    (hThere : 0 < s.countIn place b) :
    s.OnlyIn place b := by
  rcases hKept.exists_onlyIn hMade with ⟨only, hOnly⟩
  by_cases hSame : place = only
  · exact hSame ▸ hOnly
  · have hZero := hOnly.2 place hSame
    omega

/- A binding in the table is there for the key that it was made for. -/
theorem Kept.get?_of_registered
    {s : Traffic H B}
    (hKept : s.Kept)
    {i : Nat}
    {key : Key}
    {handler : H}
    {b : B}
    (hMade : (i, .bind key handler (.ok b)) ∈ s.log)
    (hThere : 0 < s.countIn .registered b) :
    s.registry.table.get? key = some ⟨handler, b⟩ := by
  have hMember : b ∈ s.registry.bindings := Multiset.count_pos.mp hThere
  rcases List.mem_map.mp (Multiset.mem_coe.mp hMember) with ⟨v, hV, rfl⟩
  rcases List.mem_map.mp hV with ⟨⟨key', v'⟩, hEntry, rfl⟩
  have hFound := (s.registry.table.mem_entries_iff key' v').mp hEntry
  rcases hKept.present hFound with ⟨j, hBound⟩
  rcases hKept.unique hMade hBound with ⟨rfl, rfl⟩
  exact hFound

/-
  In whatever order calls take their steps on a registry,
  however callbacks come out, and whenever the lock is left
  poisoned:
    * a binding that was made is in exactly one place, and
      there once: a call is about to install it or to give it
      up, it is in the table, or it was given up;
    * in the table it is found under the key that it was made
      for, with the handler that it was made for;
    * if the call that it was made for returned a fault, it
      was given up;
    * no binding was given up twice.
-/
theorem bound_only_in_one_place
    [DecidableEq H]
    {s : Traffic H B}
    (hReachable : Reachable start s) :
    (∀ i key handler b,
      (i, .bind key handler (.ok b)) ∈ s.log →
      (∃ place, s.OnlyIn place b) ∧
      (s.OnlyIn .registered b →
        s.registry.table.get? key = some ⟨handler, b⟩) ∧
      ∀ request fault,
        s.calls[i]? = some (request, .done (.error fault)) →
        s.OnlyIn .unbound b) ∧
    s.unbound.Nodup := by
  have hKept := hReachable.kept kept_start
  refine ⟨?_, ?_⟩
  · intro i key handler b hMade
    have hBound : b ∈ s.bound := mem_bound_iff.mpr ⟨i, key, handler, hMade⟩
    refine ⟨hKept.exists_onlyIn hBound, ?_, ?_⟩
    · intro hOnly
      exact hKept.get?_of_registered hMade (by rw [hOnly.1]; exact one_pos)
    · intro request fault hAt
      have hUnbound := hKept.unbound_of_fault hMade hAt
      exact hKept.onlyIn_of_pos hBound (List.count_pos_iff.mpr hUnbound)
  · have hLe : (s.unbound : Multiset B) ≤ s.bound := by
      rw [← hKept.conserved]
      exact Multiset.le_add_left _ _
    exact Multiset.coe_nodup.mp
      (Multiset.nodup_of_le hLe (Multiset.coe_nodup.mpr hKept.nodup))

------------------------------------------------------------
-- A lock that is poisoned behind a call
------------------------------------------------------------

/- The key of a subscription to all topics. -/
def listening : Key where
  client := "client"
  topic := "channels.>"

/-
  A second call cancelled the handler of the first and made a
  binding.  Then the lock was left poisoned, so that the call
  gave its binding up and left the first one in the table.
-/
def overtaken : Traffic Nat Nat where
  registry :=
    { table := Table.empty.insert listening ⟨10, 0⟩
      poisoned := true }
  calls :=
    [ (.subscribe listening 10, .done (.ok ()))
    , (.subscribe listening 11,
        .done (.error (.lockPoisoned "subscribe"))) ]
  log :=
    [ (0, .bind listening 10 (.ok 0))
    , (1, .cancel 10 (.ok ()))
    , (1, .bind listening 11 (.ok 1))
    , (1, .unbind 1 (.error .notSubscribed)) ]

theorem reachable_overtaken :
    Reachable start overtaken := by
  have hStart : Reachable (start : Traffic Nat Nat) _ := .start
  have hFirst := hStart.step (.ask (.subscribe listening 10))
  have hFree := hFirst.step (.advance 0 rfl (.access _) nofun)
  have hBound :=
    hFree.step (.advance 0 rfl (.bind _ _ _ (.ok 0)) (by decide))
  have hAdded := hBound.step (.advance 0 rfl (.access _) nofun)
  have hSecond := hAdded.step (.ask (.subscribe listening 11))
  have hTaken := hSecond.step (.advance 1 rfl (.access _) nofun)
  have hCancelled :=
    hTaken.step (.advance 1 rfl (.cancel _ _ (.ok ())) nofun)
  have hBound' :=
    hCancelled.step (.advance 1 rfl (.bind _ _ _ (.ok 1)) (by decide))
  have hPoisoned := hBound'.step .poison
  have hRefused := hPoisoned.step (.advance 1 rfl (.access _) nofun)
  have hReturned :=
    hRefused.step
      (.advance 1 rfl (.unbind _ _ (.error .notSubscribed)) nofun)
  exact hReturned

/- One binding is in the table, the other one was given up. -/
theorem overtaken_only_in_one_place :
    Reachable start overtaken ∧
    (0, .bind listening 10 (.ok 0)) ∈ overtaken.log ∧
    (1, .bind listening 11 (.ok 1)) ∈ overtaken.log ∧
    overtaken.OnlyIn .registered 0 ∧
    overtaken.registry.table.get? listening = some ⟨10, 0⟩ ∧
    overtaken.OnlyIn .unbound 1 ∧
    overtaken.unbound.Nodup := by
  have hFirst :
      (0, .bind listening 10 (.ok 0)) ∈ overtaken.log := .head _
  have hSecond :
      (1, .bind listening 11 (.ok 1)) ∈ overtaken.log :=
    .tail _ (.tail _ (.head _))
  rcases bound_only_in_one_place reachable_overtaken with
    ⟨hPlaces, hNodup⟩
  rcases hPlaces 0 listening 10 0 hFirst with ⟨⟨place, hOnly⟩, hFound, -⟩
  have hRegistered : overtaken.OnlyIn .registered 0 := by
    by_cases hPlace : place = .registered
    · exact hPlace ▸ hOnly
    · have hZero := hOnly.2 .registered (Ne.symm hPlace)
      exact absurd hZero (by decide)
  exact
    ⟨reachable_overtaken, hFirst, hSecond, hRegistered,
      hFound hRegistered,
      (hPlaces 1 listening 11 1 hSecond).2.2 _ _ rfl, hNodup⟩

end Places

end Traffic

end Courier.Registration
