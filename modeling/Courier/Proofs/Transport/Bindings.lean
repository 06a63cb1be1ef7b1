import Courier.Proofs.Pool
import Courier.Proofs.Transport.Advance
import Mathlib.Tactic.Abel

/-
  This file shows that the bindings in use on a broker in
  memory stay apart.  Each of them belongs to the registry or
  to one call, no two of them are the same, and their queues
  are attached.

  Key definitions include:
    * `Session.owned`
    * `Session.Owned`

  Main statements:
    * `Session.owned_advance`, `Session.Owned.advance`
    * `Session.Owned.step`
-/

namespace Courier

open Registration

namespace Session

variable {H ω : Type}

/- The bindings in the registry, and those that calls have in hand. -/
def owned
    (s : Session H ω) : Multiset Nat :=
  s.client.registry.bindings + (s.calls.map (·.2.owned)).sum

/- No binding is in use twice, and all their queues are attached. -/
structure Owned (s : Session H ω) : Prop where
  nodup : s.owned.Nodup
  attached :
    ∀ n ∈ s.owned, ∃ q, s.queues[n]? = some q ∧ q.attached = true

/- No call has a binding in hand that is in the registry. -/
theorem Owned.ne_of_mem
    {s : Session H ω}
    (hOwned : s.Owned)
    {m n : Nat}
    {c : Request H × Client.Call H Nat}
    (hRegistry : m ∈ s.client.registry.bindings)
    (hCall : c ∈ s.calls)
    (hHand : n ∈ c.2.owned) :
    m ≠ n := by
  rintro rfl
  have hApart := (Multiset.nodup_add.mp hOwned.nodup).2.2
  have hSum := Pool.mem_sum_map (f := fun c => c.2.owned) hCall hHand
  exact Multiset.disjoint_left.mp hApart hRegistry hSum

/- The bindings in use are those of before, or fewer. -/
theorem Owned.of_le
    {s s' : Session H ω}
    (hOwned : s.Owned)
    (hLe : s'.owned ≤ s.owned)
    (hQueues :
      ∀ n ∈ s'.owned, ∀ q,
        s.queues[n]? = some q →
        q.attached = true →
        ∃ q', s'.queues[n]? = some q' ∧ q'.attached = true) :
    s'.Owned := by
  constructor
  · exact Multiset.nodup_of_le hLe hOwned.nodup
  · intro n hMember
    rcases hOwned.attached n (Multiset.mem_of_le hLe hMember) with
      ⟨q, hAt, hAttached⟩
    exact hQueues n hMember q hAt hAttached

/- Nothing happens to the bindings in use, or to their queues. -/
theorem Owned.of_keeps
    {s s' : Session H ω}
    (hOwned : s.Owned)
    (hSame : s'.owned = s.owned)
    (hKeeps : LocalBroker.Keeps (·.attached) s.queues s'.queues) :
    s'.Owned := by
  apply hOwned.of_le (le_of_eq hSame)
  intro n _ q hAt hAttached
  rcases hKeeps n q hAt with ⟨q', hAt', hAttached'⟩
  exact ⟨q', hAt', hAttached'.trans hAttached⟩

/- A new binding is in use, whose queue is the last one. -/
theorem Owned.of_cons
    {s s' : Session H ω}
    {q : LocalBroker.Queue H}
    (hOwned : s.Owned)
    (hMore : s'.owned = s.queues.length ::ₘ s.owned)
    (hQueues : s'.queues = s.queues ++ [q])
    (hAttached : q.attached = true) :
    s'.Owned := by
  constructor
  · rw [hMore, Multiset.nodup_cons]
    refine ⟨?_, hOwned.nodup⟩
    intro hMember
    rcases hOwned.attached _ hMember with ⟨old, hAt, -⟩
    rw [List.getElem?_eq_none (Nat.le_refl _)] at hAt
    exact absurd hAt nofun
  · intro n hMember
    rw [hMore, Multiset.mem_cons] at hMember
    rw [hQueues]
    rcases hMember with rfl | hOld
    · exact ⟨q, List.getElem?_concat_length, hAttached⟩
    · rcases hOwned.attached n hOld with ⟨old, hAt, hOldAttached⟩
      rcases LocalBroker.keeps_append (·.attached) s.queues q n old hAt with
        ⟨old', hAt', hSame⟩
      exact ⟨old', hAt', hSame.trans hOldAttached⟩

/- A binding is no more in use, and its queue may be detached. -/
theorem Owned.of_uncons
    {s s' : Session H ω}
    {n : Nat}
    (hOwned : s.Owned)
    (hLess : n ::ₘ s'.owned = s.owned)
    (hQueues :
      s'.queues = s.queues.modify n fun q => { q with attached := false }) :
    s'.Owned := by
  have hNodup := hOwned.nodup
  rw [← hLess, Multiset.nodup_cons] at hNodup
  apply hOwned.of_le
  · rw [← hLess]
    exact Multiset.le_cons_self _ n
  · intro m hMember q hAt hAttached
    have hOther : n ≠ m := by
      rintro rfl
      exact hNodup.1 hMember
    refine ⟨q, ?_, hAttached⟩
    rw [hQueues, List.getElem?_modify_ne _ _ hOther]
    exact hAt

/-
  What a step adds to the bindings of the registry and of its
  call, it adds to those in use, and so with what it takes.
-/
theorem owned_advance
    {s s' : Session H ω}
    {i : Nat}
    {request : Request H}
    {call call' : Client.Call H Nat}
    (hAt : s.calls[i]? = some (request, call))
    (hCalls : s'.calls = s.calls.set i (request, call'))
    {out new : Multiset Nat}
    (hMoved :
      call'.owned + s'.client.registry.bindings + out =
        call.owned + s.client.registry.bindings + new) :
    s'.owned + out = s.owned + new := by
  have hBalanced :
      s.client.registry.bindings + (s.calls.map (·.2.owned)).sum + 0 =
        s.owned :=
    add_zero _
  have hNext :
      s'.client.registry.bindings +
          ((s.calls.set i (request, call')).map (·.2.owned)).sum +
          (0 + out) =
        s.owned + new :=
    Pool.balanced_set (fun c : Request H × Client.Call H Nat => c.2.owned)
      hAt hMoved hBalanced
  rw [zero_add, ← hCalls] at hNext
  exact hNext

variable [DecidableEq H]

/- A call takes a step. -/
theorem Owned.advance
    {s s' : Session H ω}
    (hOwned : s.Owned)
    {i : Nat}
    {request : Request H}
    {call call' : Client.Call H Nat}
    (hAt : s.calls[i]? = some (request, call))
    (hCalls : s'.calls = s.calls.set i (request, call'))
    (hAdvance : call.Advance s.client call' s'.client) :
    s'.Owned := by
  have hMoves :
      ∀ {out new : Multiset Nat},
        call'.owned + s'.client.registry.bindings + out =
            call.owned + s.client.registry.bindings + new →
          s'.owned + out = s.owned + new :=
    owned_advance hAt hCalls
  generalize hClient : s'.client = client' at hAdvance hMoves
  cases hAdvance with
  | quiet hSame hBefore hAfter hRegistry hTransport hRoot hSeen =>
      apply hOwned.of_keeps
      · apply add_right_cancel (b := 0)
        apply hMoves
        rw [hSame, hRegistry]
      · unfold queues
        rw [hClient, hTransport]
        exact LocalBroker.keeps_refl _ _
  | @access a inner r hInner hInner' hAccessed =>
      apply hOwned.of_keeps
      · apply add_right_cancel (b := 0)
        apply hMoves
        rw [Client.Call.owned_eq hInner, Client.Call.owned_eq hInner',
          Registration.Call.owned_accessed hAccessed]
        rfl
      · unfold queues
        rw [hClient]
        exact LocalBroker.keeps_refl _ _
  | @bind key handler old hInner hInner' =>
      have hMore : s'.owned = s.queues.length ::ₘ s.owned := by
        rw [← add_zero s'.owned, ← Multiset.singleton_add, add_comm {_}]
        apply hMoves
        rw [Client.Call.owned_eq hInner, Client.Call.owned_eq hInner']
        change {s.queues.length} + s.client.registry.bindings + 0 =
          0 + s.client.registry.bindings + {s.queues.length}
        abel
      apply hOwned.of_cons hMore
      · unfold queues
        rw [hClient]
        rfl
      · rfl
  | @unbind n next hInner hInner' =>
      have hLess : n ::ₘ s'.owned = s.owned := by
        rw [← add_zero s.owned, ← Multiset.singleton_add, add_comm {_}]
        apply hMoves
        rw [Client.Call.owned_eq hInner, Client.Call.owned_eq hInner',
          Registration.Call.owned_unbound]
        change next.owned + s.client.registry.bindings + {n} =
          (n ::ₘ next.owned) + s.client.registry.bindings + 0
        rw [← Multiset.singleton_add]
        abel
      apply hOwned.of_uncons hLess
      unfold queues
      rw [hClient]
      rfl

/- The bindings in use stay apart in each step. -/
theorem Owned.step
    {handlers : Handlers H ω}
    {s s' : Session H ω}
    (hOwned : s.Owned)
    (hUsable : s.client.registry.poisoned = false)
    (hStep : Step handlers s s') :
    s'.Owned := by
  cases hStep with
  | ask request =>
      apply hOwned.of_keeps
      · simp [owned, Client.Call.owned_asking]
      · exact LocalBroker.keeps_refl _ _
  | advance i hAt hStep =>
      exact hOwned.advance hAt rfl
        (Client.Call.advance_of_step handlers hStep)
  | publish topic hFits hPublish =>
      apply hOwned.of_keeps
      · unfold owned
        rw [(LocalBroker.publish_frame hUsable hPublish).1]
      · exact LocalBroker.keeps_publish hUsable hPublish
          fun octets q => (LocalBroker.Queue.push_frame octets q).2
  | setAvailable available =>
      exact hOwned.of_keeps rfl (LocalBroker.keeps_refl _ _)
  | setRefusal refusal =>
      exact hOwned.of_keeps rfl (LocalBroker.keeps_refl _ _)
  | @deliver n client' hDeliver =>
      subst hDeliver
      apply hOwned.of_keeps
      · unfold owned
        rw [(LocalBroker.deliver_frame handlers.watched n s.client).1]
      · exact LocalBroker.keeps_deliver handlers.watched n s.client
          fun q w =>
            (LocalBroker.Queue.deliver_frame handlers.watched q w).2
  | reorder hReordered =>
      apply hOwned.of_keeps
      · unfold owned
        rw [bindings_eq_of_reordered hReordered]
      · exact LocalBroker.keeps_refl _ _

end Session

end Courier
