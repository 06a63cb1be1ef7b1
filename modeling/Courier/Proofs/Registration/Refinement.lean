import Courier.Proofs.Registration.Reference
import Mathlib.Data.List.Induction

/-
  This file shows that a registry is like the reference
  machine: calls that are made one after the other have the
  same results, leave the same map and run the same callbacks
  in the same order, whatever the callbacks come to.

  Each kind of call is run to its end once.  Histories follow
  by induction, as the machines agree after every call.

  Key definitions include:
    * `Call.Ends`, `Call.Follows`
    * `Agree`

  Main statements:
    * `Call.follows_subscribe`, `Call.follows_unsubscribe`,
      `Call.follows_clear`
    * `Served.simulated`
    * `Registry.served_iff_reference`
-/

namespace Courier.Registration

------------------------------------------------------------
-- Calls that end
------------------------------------------------------------

namespace Call

section Ends

variable {H B σ : Type}
variable [DecidableEq H]
variable {callbacks : Callbacks H B σ}

/- A call has returned after a number of steps. -/
def Ends
    (callbacks : Callbacks H B σ)
    (n : Nat)
    (c : Call H B)
    (s : Scene H B σ)
    (result : Except Fault Unit)
    (s' : Scene H B σ) : Prop :=
  steps callbacks n c s = (done result, s')

/- A call that has returned stays as it is. -/
theorem ends_done
    (n : Nat)
    (result : Except Fault Unit)
    (s : Scene H B σ) :
    Ends callbacks n (done result) s result s := by
  induction n with
  | zero => rfl
  | succ n ih => exact ih

/- One more step in front. -/
theorem Ends.after
    {n : Nat}
    {c c' : Call H B}
    {s s' last : Scene H B σ}
    {result : Except Fault Unit}
    (hStep : c.step callbacks s = (c', s'))
    (hEnds : Ends callbacks n c' s' result last) :
    Ends callbacks (n + 1) c s result last := by
  unfold Ends
  simp only [steps, hStep]
  exact hEnds

/- More steps change nothing once a call has returned. -/
theorem Ends.more
    {m n : Nat}
    {c : Call H B}
    {s last : Scene H B σ}
    {result : Except Fault Unit}
    (hEnds : Ends callbacks m c s result last)
    (hMore : m ≤ n) :
    Ends callbacks n c s result last := by
  induction m generalizing n c s with
  | zero =>
      have hDone : (c, s) = (done result, last) := hEnds
      cases hDone
      exact ends_done n result last
  | succ m ih =>
      rcases Nat.exists_eq_add_of_le' hMore with ⟨k, rfl⟩
      have hRest :
          Ends callbacks m
            (c.step callbacks s).1
            (c.step callbacks s).2 result last := hEnds
      exact Ends.after (n := k + m) rfl (ih hRest (Nat.le_add_left m k))

/- A call that ends in time is run to its end. -/
theorem Ends.run
    {n : Nat}
    {request : Request H}
    {s last : Scene H B σ}
    {result : Except Fault Unit}
    (hEnds : Ends callbacks n (start request) s result last)
    (hTime : n ≤ mostSteps s.registry.table.size) :
    run callbacks request s = (result, last) := by
  have hMost := hEnds.more hTime
  unfold Ends at hMost
  simp only [Call.run, hMost, Call.result]

end Ends

------------------------------------------------------------
-- Tables as maps
------------------------------------------------------------

section Maps

variable {α : Type}

/- The map of a table after an insertion. -/
theorem get?_insert_eq_update
    (t : Table α)
    (key : Key)
    (value : α) :
    (t.insert key value).get? = Function.update t.get? key (some value) := by
  funext other
  simp only [Table.get?_insert, Function.update_apply, eq_comm]

/- The map of a table after a removal. -/
theorem get?_erase_eq_update
    (t : Table α)
    (key : Key) :
    (t.erase key).get? = Function.update t.get? key none := by
  funext other
  simp only [Table.get?_erase, Function.update_apply, eq_comm]

end Maps

------------------------------------------------------------
-- Calls like those of the reference machine
------------------------------------------------------------

section Follows

variable {H B σ : Type}
variable [DecidableEq H]
variable {answers : Answers H B σ}
variable {t : Table (Subscription H B)}
variable {j j' : Journal H B σ}

/- A registry that can be used, and a journal. -/
def scene
    (t : Table (Subscription H B))
    (j : Journal H B σ) : Scene H B (Journal H B σ) where
  registry := { table := t, poisoned := false }
  state := j

/- A call ends in time the way the reference machine says. -/
def Follows
    (answers : Answers H B σ)
    (n : Nat)
    (c : Call H B)
    (t : Table (Subscription H B))
    (j : Journal H B σ)
    (out : Except Fault Unit × Reference.State H B σ) : Prop :=
  ∃ t' : Table (Subscription H B),
    Ends answers.callbacks n c (scene t j)
      out.1 (scene t' out.2.journal) ∧
    t'.get? = out.2.map

/- A call that has returned with the table at hand. -/
theorem follows_done
    {n : Nat}
    {result : Except Fault Unit}
    {map : Key → Option (Subscription H B)}
    (hMap : t.get? = map) :
    Follows answers n (done result) t j (result, ⟨map, j⟩) :=
  ⟨t, ends_done n result (scene t j), hMap⟩

/- More steps change nothing. -/
theorem Follows.more
    {m n : Nat}
    {c : Call H B}
    {out : Except Fault Unit × Reference.State H B σ}
    (hFollows : Follows answers m c t j out)
    (hMore : m ≤ n) :
    Follows answers n c t j out := by
  rcases hFollows with ⟨last, hEnds, hMap⟩
  exact ⟨last, hEnds.more hMore, hMap⟩

/- The table is accessed next. -/
theorem Follows.afterAccess
    {n : Nat}
    {a : Access H B}
    {c : Call H B}
    {t' : Table (Subscription H B)}
    {out : Except Fault Unit × Reference.State H B σ}
    (hAccess : access a ⟨t, false⟩ = (c, ⟨t', false⟩))
    (hFollows : Follows answers n c t' j out) :
    Follows answers (n + 1) (accessing a) t j out := by
  rcases hFollows with ⟨last, hEnds, hMap⟩
  refine ⟨last, hEnds.after ?_, hMap⟩
  simp only [step, scene, hAccess]

/- A handler is cancelled next. -/
theorem Follows.afterCancel
    {n : Nat}
    {handler : H}
    {next : AfterCancel H B}
    {outcome : Except String Unit}
    {out : Except Fault Unit × Reference.State H B σ}
    (hOutcome : answers.cancelled handler j = (outcome, j'))
    (hFollows :
      Follows answers n (cancelled handler next outcome) t j' out) :
    Follows answers (n + 1) (cancelling handler next) t j out := by
  rcases hFollows with ⟨last, hEnds, hMap⟩
  refine ⟨last, hEnds.after ?_, hMap⟩
  simp only [step, scene, Answers.callbacks, hOutcome]

/- A binding is made next. -/
theorem Follows.afterBind
    {n : Nat}
    {key : Key}
    {handler : H}
    {old : Option H}
    {outcome : Except Fault B}
    {out : Except Fault Unit × Reference.State H B σ}
    (hOutcome : answers.bound key handler j = (outcome, j'))
    (hFollows :
      Follows answers n (bound key handler old outcome) t j' out) :
    Follows answers (n + 1) (binding key handler old) t j out := by
  rcases hFollows with ⟨last, hEnds, hMap⟩
  refine ⟨last, hEnds.after ?_, hMap⟩
  simp only [step, scene, Answers.callbacks, hOutcome]

/- A binding is given up next. -/
theorem Follows.afterUnbind
    {n : Nat}
    {b : B}
    {next : AfterUnbind H B}
    {outcome : Except Fault Unit}
    {out : Except Fault Unit × Reference.State H B σ}
    (hOutcome : answers.unbound b j = (outcome, j'))
    (hFollows :
      Follows answers n (unbound next outcome) t j' out) :
    Follows answers (n + 1) (unbinding b next) t j out := by
  rcases hFollows with ⟨last, hEnds, hMap⟩
  refine ⟨last, hEnds.after ?_, hMap⟩
  simp only [step, scene, Answers.callbacks, hOutcome]

/- A call that is like the reference machine in time is run so. -/
theorem Follows.run
    {n : Nat}
    {request : Request H}
    {out : Except Fault Unit × Reference.State H B σ}
    (hFollows : Follows answers n (start request) t j out)
    (hTime : n ≤ mostSteps t.size) :
    ∃ t' : Table (Subscription H B),
      Call.run answers.callbacks request (scene t j) =
        (out.1, scene t' out.2.journal) ∧
      t'.get? = out.2.map := by
  rcases hFollows with ⟨t', hEnds, hMap⟩
  exact ⟨t', hEnds.run hTime, hMap⟩

end Follows

------------------------------------------------------------
-- Each kind of call
------------------------------------------------------------

section Kinds

variable {H B σ : Type}
variable [DecidableEq H]
variable (answers : Answers H B σ)
variable {key : Key}
variable {t : Table (Subscription H B)}

/- A key is refused before anything runs. -/
theorem follows_checked
    {n : Nat}
    {a : Access H B}
    {j : Journal H B σ}
    {out : Except Fault Unit × Reference.State H B σ}
    (hFollows : Follows answers n (accessing a) t j out) :
    Follows answers n (checked key a) t j
      (Reference.checked key ⟨t.get?, j⟩ out) := by
  unfold checked Key.check Reference.checked
  simp only [String.isEmpty_iff]
  by_cases hClient : key.client = ""
  · simp only [if_pos hClient]
    exact follows_done rfl
  · by_cases hTopic : key.topic = ""
    · simp only [if_neg hClient, if_pos hTopic]
      exact follows_done rfl
    · simp only [if_neg hClient, if_neg hTopic]
      exact hFollows

/- Subscribe on a key that has no subscription. -/
theorem follows_subscribeFree
    (handler : H)
    (j : Journal H B σ)
    (hFree : t.get? key = none) :
    Follows answers 3 (accessing (.find key handler)) t j
      (Reference.subscribeFree answers key handler ⟨t.get?, j⟩) := by
  have hFind :
      access (.find key handler) ⟨t, false⟩ =
        (binding key handler none, ⟨t, false⟩) := by
    simp [access, hFree]
  apply Follows.afterAccess hFind
  unfold Reference.subscribeFree
  rcases hBound : answers.bound key handler j with ⟨fault | b, j'⟩
  · exact Follows.afterBind hBound (follows_done rfl)
  · have hInstall :
        access (.install key handler b none) ⟨t, false⟩ =
          (done (.ok ()), ⟨t.insert key ⟨handler, b⟩, false⟩) := by
      simp [access, hFree]
    apply Follows.afterBind hBound
    apply Follows.afterAccess hInstall
    exact follows_done (get?_insert_eq_update t key ⟨handler, b⟩)

/- Subscribe on a key that has a subscription. -/
theorem follows_subscribeTaken
    (handler : H)
    {old : Subscription H B}
    (j : Journal H B σ)
    (hTaken : t.get? key = some old) :
    Follows answers 5 (accessing (.find key handler)) t j
      (Reference.subscribeTaken answers key handler old ⟨t.get?, j⟩) := by
  have hFind :
      access (.find key handler) ⟨t, false⟩ =
        (cancelling old.handler (.bind key handler), ⟨t, false⟩) := by
    simp [access, hTaken]
  apply Follows.afterAccess hFind
  unfold Reference.subscribeTaken
  rcases hCancel : answers.cancelled old.handler j with
    ⟨detail | ⟨⟩, j₁⟩
  · exact Follows.afterCancel hCancel (follows_done rfl)
  · apply Follows.afterCancel hCancel
    dsimp only
    rcases hBound : answers.bound key handler j₁ with ⟨fault | b, j₂⟩
    · -- Nobody has touched the entry since it was looked up.
      have hRetract :
          access (.retract key old.handler fault) ⟨t, false⟩ =
            (unbinding old.binding (.answer (.error fault)),
              ⟨t.erase key, false⟩) := by
        simp [access, hTaken]
      apply Follows.afterBind hBound
      apply Follows.afterAccess hRetract
      apply Follows.afterUnbind rfl
      exact follows_done (get?_erase_eq_update t key)
    · have hInstall :
          access (.install key handler b (some old.handler)) ⟨t, false⟩ =
            (unbinding old.binding (.answer (.ok ())),
              ⟨t.insert key ⟨handler, b⟩, false⟩) := by
        simp [access, hTaken, replaced]
      apply Follows.afterBind hBound
      apply Follows.afterAccess hInstall
      apply Follows.afterUnbind rfl
      exact follows_done (get?_insert_eq_update t key ⟨handler, b⟩)

/- Subscribe a handler. -/
theorem follows_subscribe
    (key : Key)
    (handler : H)
    (t : Table (Subscription H B))
    (j : Journal H B σ) :
    Follows answers 5 (start (.subscribe key handler)) t j
      (Reference.subscribe answers key handler ⟨t.get?, j⟩) := by
  apply follows_checked
  dsimp only
  cases hGet : t.get? key with
  | none =>
      have hFree := follows_subscribeFree answers handler j hGet
      exact hFree.more (by omega)
  | some old => exact follows_subscribeTaken answers handler j hGet

/- Give a subscription up that was taken out. -/
theorem follows_removed
    (old : Subscription H B)
    (t : Table (Subscription H B))
    (j : Journal H B σ) :
    Follows answers 2
      (cancelling old.handler (.unbindRemoved old.binding)) t j
      ((Reference.giveUp answers old j).1,
        ⟨t.get?, (Reference.giveUp answers old j).2⟩) := by
  unfold Reference.giveUp
  rcases hCancel : answers.cancelled old.handler j with
    ⟨detail | ⟨⟩, j₁⟩
  · apply Follows.afterCancel hCancel
    apply Follows.afterUnbind rfl
    exact follows_done rfl
  · apply Follows.afterCancel hCancel
    apply Follows.afterUnbind rfl
    exact follows_done rfl

/- Give the subscription of a key up. -/
theorem follows_unsubscribe
    (key : Key)
    (t : Table (Subscription H B))
    (j : Journal H B σ) :
    Follows answers 3 (start (.unsubscribe key)) t j
      (Reference.unsubscribe answers key ⟨t.get?, j⟩) := by
  apply follows_checked
  dsimp only
  cases hGet : t.get? key with
  | none =>
      have hRemove :
          access (.remove key) ⟨t, false⟩ =
            ((done (.error .notSubscribed) : Call H B), ⟨t, false⟩) := by
        simp [access, hGet]
      exact Follows.afterAccess hRemove (follows_done rfl)
  | some old =>
      have hRemove :
          access (.remove key) ⟨t, false⟩ =
            (cancelling old.handler (.unbindRemoved old.binding),
              ⟨t.erase key, false⟩) := by
        simp [access, hGet]
      have hRemoved := follows_removed answers old (t.erase key) j
      rw [get?_erase_eq_update] at hRemoved
      exact Follows.afterAccess hRemove hRemoved

/- Give drained subscriptions up, one after the other. -/
theorem follows_giveUp
    (drained : List (Subscription H B))
    (j : Journal H B σ) :
    Follows answers (2 * drained.length) (giveUp drained) .empty j
      (.ok (), ⟨fun _ => none, Reference.giveUpAll answers drained j⟩) := by
  induction drained generalizing j with
  | nil => exact follows_done rfl
  | cons old rest ih =>
      have hJournal :
          (Reference.giveUp answers old j).2 =
            (answers.unbound old.binding
              (answers.cancelled old.handler j).2).2 := by
        unfold Reference.giveUp
        rcases answers.cancelled old.handler j with ⟨detail | ⟨⟩, j₁⟩
        · rfl
        · rfl
      unfold giveUp Reference.giveUpAll
      rw [hJournal]
      apply Follows.afterCancel rfl
      apply Follows.afterUnbind rfl
      exact ih _

/- Give all subscriptions up. -/
theorem follows_clear
    (t : Table (Subscription H B))
    (j : Journal H B σ) :
    Follows answers (2 * t.size + 1) (start .clear) t j
      (.ok (),
        { map := fun _ => none
          journal :=
            Reference.giveUpAll answers (t.entries.map (·.2)) j }) := by
  have hDrain :
      access .drain ⟨t, false⟩ =
        (giveUp (t.entries.map (·.2)), ⟨.empty, false⟩) := by
    simp [access]
  have hGiveUp := follows_giveUp answers (t.entries.map (·.2)) j
  rw [List.length_map] at hGiveUp
  exact Follows.afterAccess hDrain hGiveUp

/- There is time for the few steps of a call on one key. -/
theorem le_mostSteps
    {n : Nat}
    (hFew : n ≤ 5)
    (size : Nat) :
    n ≤ mostSteps size := by
  unfold mostSteps
  omega

/- There is time for giving every subscription up. -/
theorem clear_le_mostSteps
    (size : Nat) :
    2 * size + 1 ≤ mostSteps size := by
  unfold mostSteps
  omega

/- Every call is like some call of the reference machine. -/
theorem exists_follows
    (request : Request H)
    (t : Table (Subscription H B))
    (j : Journal H B σ) :
    ∃ n out,
      n ≤ mostSteps t.size ∧
      Follows answers n (start request) t j out ∧
      Reference.Serves answers ⟨t.get?, j⟩ request out.1 out.2 := by
  cases request with
  | subscribe key handler =>
      refine ⟨5, _, ?_, follows_subscribe answers key handler t j, ?_⟩
      · exact le_mostSteps (Nat.le_refl 5) t.size
      · exact .subscribe key handler ⟨t.get?, j⟩
  | unsubscribe key =>
      refine ⟨3, _, ?_, follows_unsubscribe answers key t j, ?_⟩
      · exact le_mostSteps (by omega) t.size
      · exact .unsubscribe key ⟨t.get?, j⟩
  | clear =>
      refine ⟨2 * t.size + 1, _, ?_, follows_clear answers t j, ?_⟩
      · exact clear_le_mostSteps t.size
      · exact .clear (s := ⟨t.get?, j⟩) ⟨t.distinct, t.mem_entries_iff⟩

/- Every call of the reference machine is like some call. -/
theorem exists_follows_of_serves
    {request : Request H}
    {result : Except Fault Unit}
    {j : Journal H B σ}
    {s : Reference.State H B σ}
    (hServes : Reference.Serves answers ⟨t.get?, j⟩ request result s) :
    ∃ n u,
      t.Reordered u ∧
      n ≤ mostSteps u.size ∧
      Follows answers n (start request) u j (result, s) := by
  cases hServes with
  | subscribe key handler =>
      refine ⟨5, t, t.reordered_refl, ?_, ?_⟩
      · exact le_mostSteps (Nat.le_refl 5) t.size
      · exact follows_subscribe answers key handler t j
  | unsubscribe key =>
      refine ⟨3, t, t.reordered_refl, ?_, ?_⟩
      · exact le_mostSteps (by omega) t.size
      · exact follows_unsubscribe answers key t j
  | clear hLists =>
      rcases Table.exists_reordered hLists.distinct hLists.mem_iff with
        ⟨u, hReordered, rfl⟩
      refine ⟨2 * u.size + 1, u, hReordered, ?_, ?_⟩
      · exact clear_le_mostSteps u.size
      · exact follows_clear answers u j

end Kinds

end Call

------------------------------------------------------------
-- Histories
------------------------------------------------------------

/-
  If one machine can answer each call as another does, and go
  on in agreement with it, it can answer each history so.
-/
theorem Served.simulated
    {H S T : Type}
    {serves : S → Request H → Except Fault Unit → S → Prop}
    {serves' : T → Request H → Except Fault Unit → T → Prop}
    {agree : S → T → Prop}
    (hCalls :
      ∀ s t request result s',
        agree s t →
        serves s request result s' →
        ∃ t', serves' t request result t' ∧ agree s' t')
    {s s' : S}
    {t : T}
    {history : List (Request H × Except Fault Unit)}
    (hServed : Served serves s history s')
    (hAgree : agree s t) :
    ∃ t', Served serves' t history t' ∧ agree s' t' := by
  induction hServed with
  | start => exact ⟨t, .start, hAgree⟩
  | next hEarlier hCall ih =>
      rcases ih with ⟨t₁, hEarlier', hAgree₁⟩
      rcases hCalls _ t₁ _ _ _ hAgree₁ hCall with
        ⟨t₂, hCall', hAgree₂⟩
      exact ⟨t₂, .next hEarlier' hCall', hAgree₂⟩

section Machines

variable {H B σ : Type}

/- A registry and the reference machine are at the same point. -/
def Agree
    (s : Scene H B (Journal H B σ))
    (m : Reference.State H B σ) : Prop :=
  s.registry.poisoned = false ∧
  s.registry.table.get? = m.map ∧
  s.state = m.journal

variable [DecidableEq H]
variable {answers : Answers H B σ}

/- What a registry does, the reference machine can do. -/
theorem Agree.serves_reference
    {s s' : Scene H B (Journal H B σ)}
    {m : Reference.State H B σ}
    {request : Request H}
    {result : Except Fault Unit}
    (hAgree : Agree s m)
    (hServes : Registry.Serves answers s request result s') :
    ∃ m', Reference.Serves answers m request result m' ∧ Agree s' m' := by
  rcases hServes with ⟨⟨u, poisoned⟩, ⟨hReordered, hPoisoned⟩, hRun⟩
  rcases hAgree with ⟨hUsable, hMap, hJournal⟩
  have hMap' : u.get? = m.map := by
    rw [← hMap]
    funext key
    exact Table.get?_eq_of_reordered hReordered key
  rcases Call.exists_follows answers request u m.journal with
    ⟨n, out, hTime, hFollows, hServes⟩
  rcases hFollows.run hTime with ⟨t', hRun', hMap''⟩
  have hScene :
      ({ s with registry := ⟨u, poisoned⟩ } : Scene H B _) =
        Call.scene u m.journal := by
    simp only at hPoisoned
    rw [← hPoisoned, hUsable, hJournal]
    rfl
  rw [hScene, hRun'] at hRun
  cases hRun
  rw [hMap'] at hServes
  exact ⟨out.2, hServes, rfl, hMap'', rfl⟩

/- What the reference machine does, a registry can do. -/
theorem Agree.serves_registry
    {s : Scene H B (Journal H B σ)}
    {m m' : Reference.State H B σ}
    {request : Request H}
    {result : Except Fault Unit}
    (hAgree : Agree s m)
    (hServes : Reference.Serves answers m request result m') :
    ∃ s', Registry.Serves answers s request result s' ∧ Agree s' m' := by
  have hMap : m = ⟨s.registry.table.get?, m.journal⟩ := by
    rw [hAgree.2.1]
  rw [hMap] at hServes
  rcases Call.exists_follows_of_serves answers hServes with
    ⟨n, u, hReordered, hTime, hFollows⟩
  rcases hFollows.run hTime with ⟨t', hRun, hMap'⟩
  refine ⟨Call.scene t' m'.journal, ?_, rfl, hMap', rfl⟩
  refine ⟨⟨u, false⟩, ⟨hReordered, hAgree.1⟩, ?_⟩
  rw [hAgree.2.2]
  exact hRun

/- Any calls at all can be made, one after the other. -/
theorem exists_served
    (answers : Answers H B σ)
    (s : Scene H B (Journal H B σ))
    (requests : List (Request H)) :
    ∃ history s',
      history.map (·.1) = requests ∧
      Served (Registry.Serves answers) s history s' := by
  induction requests using List.reverseRecOn with
  | nil => exact ⟨[], s, rfl, .start⟩
  | append_singleton requests request ih =>
      rcases ih with ⟨history, s', hRequests, hServed⟩
      rcases hRun : Call.run answers.callbacks request s' with
        ⟨result, s''⟩
      refine ⟨history ++ [(request, result)], s'', ?_, ?_⟩
      · simp [hRequests]
      · exact .next hServed ⟨s'.registry, s'.registry.reordered_refl, hRun⟩

/-
  A registry is the reference machine.  All calls on it can be
  answered.  What they are answered, the map that they leave
  and the callbacks that they ran are what the machine gives,
  and all that the machine can give.
-/
theorem Registry.served_iff_reference
    (answers : Answers H B σ)
    (state : σ) :
    (∀ requests : List (Request H),
      ∃ history s,
        history.map (·.1) = requests ∧
        Served (Registry.Serves answers)
          ⟨Registry.empty, .opened state⟩ history s) ∧
    ∀ (history : List (Request H × Except Fault Unit))
      (map : Key → Option (Subscription H B))
      (j : Journal H B σ),
      (∃ r : Registry H B,
        Served (Registry.Serves answers)
          ⟨Registry.empty, .opened state⟩ history ⟨r, j⟩ ∧
        r.poisoned = false ∧
        ∀ key, r.table.get? key = map key) ↔
      Served (Reference.Serves answers)
        ⟨fun _ => none, .opened state⟩ history ⟨map, j⟩ := by
  refine ⟨exists_served answers _, ?_⟩
  intro history map j
  have hStart :
      Agree
        (⟨Registry.empty, .opened state⟩ : Scene H B (Journal H B σ))
        ⟨fun _ => none, .opened state⟩ :=
    ⟨rfl, rfl, rfl⟩
  constructor
  · rintro ⟨r, hServed, hUsable, hMap⟩
    have hCalls :
        ∀ (s : Scene H B (Journal H B σ))
          (m : Reference.State H B σ) request result s',
          Agree s m →
          Registry.Serves answers s request result s' →
          ∃ m',
            Reference.Serves answers m request result m' ∧
            Agree s' m' := by
      intro s m request result s' hAgree hCall
      exact hAgree.serves_reference hCall
    rcases hServed.simulated hCalls hStart with ⟨m, hServed', hAgree⟩
    have hEnd : m = ⟨map, j⟩ := by
      rcases m with ⟨map', j'⟩
      rcases hAgree with ⟨-, hMap', hJournal⟩
      simp only at hMap' hJournal
      rw [← hMap', ← hJournal, funext hMap]
    rwa [hEnd] at hServed'
  · intro hServed
    have hCalls :
        ∀ (m : Reference.State H B σ)
          (s : Scene H B (Journal H B σ)) request result m',
          Agree s m →
          Reference.Serves answers m request result m' →
          ∃ s',
            Registry.Serves answers s request result s' ∧
            Agree s' m' := by
      intro m s request result m' hAgree hCall
      exact hAgree.serves_registry hCall
    rcases hServed.simulated hCalls hStart with
      ⟨⟨r, j'⟩, hServed', hUsable, hMap, hJournal⟩
    simp only at hUsable hMap hJournal
    rw [hJournal] at hServed'
    exact ⟨r, hServed', hUsable, congrFun hMap⟩

end Machines

end Courier.Registration
