import Courier.Proofs.Transport.Conversation
import Mathlib.Data.List.Pairwise

/-
  This file says when it does not matter which of some handlers
  is given a message first.

  Worlds are compared by a relation of the user's choice.  A
  steady handler does the same in worlds that are alike, as far
  as a client can see: whether it breaks down, and what its
  cancelling comes to.  Two handlers are independent if either
  of them may be given a message first.

  Key definitions include:
    * `Handlers.Steady`
    * `Handlers.Independent`
    * `Diary.Alike`
    * `Handlers.receiveAll`

  Main statements:
    * `Handlers.Steady.noted`, `Handlers.Independent.noted`
    * `Handlers.Steady.receiveAll_perm`
    * `Handlers.Independent.receive_after`
-/

namespace Courier

variable {H ω : Type}
variable {alike : ω → ω → Prop}
variable {handlers : Handlers H ω}

------------------------------------------------------------
-- Steady handlers
------------------------------------------------------------

namespace Handlers

/- A client cannot tell handlers in one world from those in another. -/
structure Steady
    (handlers : Handlers H ω)
    (alike : ω → ω → Prop) : Prop where
  equivalence : Equivalence alike
  /- Cancelling a handler comes to the same. -/
  cancelled :
    ∀ handler {v w}, alike v w →
      (handlers.cancel handler v).1 = (handlers.cancel handler w).1 ∧
        alike (handlers.cancel handler v).2 (handlers.cancel handler w).2
  /- A handler breaks down in both worlds, or in none. -/
  handled :
    ∀ handler m {v w}, alike v w →
      ((handlers.handle handler m v).1 = .broken ↔
          (handlers.handle handler m w).1 = .broken) ∧
        alike (handlers.handle handler m v).2
          (handlers.handle handler m w).2

/-
  Of two handlers that are given a message, neither breaks
  down on account of the other one having had it first, and
  the order makes no difference to the world.
-/
def Independent
    (handlers : Handlers H ω)
    (alike : ω → ω → Prop)
    (h k : H) : Prop :=
  ∀ m w,
    ((handlers.handle h m (handlers.handle k m w).2).1 = .broken ↔
        (handlers.handle h m w).1 = .broken) ∧
    ((handlers.handle k m (handlers.handle h m w).2).1 = .broken ↔
        (handlers.handle k m w).1 = .broken) ∧
    alike
      (handlers.handle h m (handlers.handle k m w).2).2
      (handlers.handle k m (handlers.handle h m w).2).2

theorem Independent.symm
    (hSteady : handlers.Steady alike)
    {h k : H}
    (hIndependent : handlers.Independent alike h k) :
    handlers.Independent alike k h := by
  intro m w
  rcases hIndependent m w with ⟨hFirst, hSecond, hWorld⟩
  exact ⟨hSecond, hFirst, hSteady.equivalence.symm hWorld⟩

end Handlers

------------------------------------------------------------
-- Handlers with a diary
------------------------------------------------------------

/-
  Diaries are alike if their worlds are, and the same was
  noted in any order.
-/
structure Diary.Alike
    (alike : ω → ω → Prop)
    (d e : Diary H ω) : Prop where
  world : alike d.watch.world e.watch.world
  seen : d.watch.seen.Perm e.watch.seen
  cancelled : d.cancelled.Perm e.cancelled

namespace Handlers

/- Handlers are as steady with a diary as without. -/
theorem Steady.noted
    (hSteady : handlers.Steady alike) :
    handlers.noted.Steady (Diary.Alike alike) := by
  constructor
  · constructor
    · intro d
      exact ⟨hSteady.equivalence.refl _, .refl _, .refl _⟩
    · intro d e h
      exact ⟨hSteady.equivalence.symm h.world, h.seen.symm,
        h.cancelled.symm⟩
    · intro d e f h h'
      exact ⟨hSteady.equivalence.trans h.world h'.world,
        h.seen.trans h'.seen, h.cancelled.trans h'.cancelled⟩
  · intro handler d e h
    rcases hSteady.cancelled handler h.world with ⟨hOutcome, hWorld⟩
    exact ⟨hOutcome, hWorld, h.seen, h.cancelled.append_right _⟩
  · intro handler m d e h
    rcases hSteady.handled handler m h.world with ⟨hBreaks, hWorld⟩
    exact ⟨hBreaks, hWorld, h.seen.append_right _, h.cancelled⟩

/- So are they independent of each other. -/
theorem Independent.noted
    {h k : H}
    (hIndependent : handlers.Independent alike h k) :
    handlers.noted.Independent (Diary.Alike alike) h k := by
  intro m d
  rcases hIndependent m d.watch.world with ⟨hFirst, hSecond, hWorld⟩
  refine ⟨hFirst, hSecond, hWorld, ?_, .refl _⟩
  have hSwap :
      ([(k, m)] ++ [(h, m)]).Perm ([(h, m)] ++ [(k, m)]) :=
    List.perm_append_comm
  have hSeen := hSwap.append_left d.watch.seen
  rw [← List.append_assoc, ← List.append_assoc] at hSeen
  exact hSeen

/- The world after handlers were cancelled one after the other. -/
def cancelAll
    (handlers : Handlers H ω)
    (given : List H)
    (w : ω) : ω :=
  given.foldl (fun w h => (handlers.cancel h w).2) w

/- All that were cancelled are noted, and they receive nothing. -/
theorem cancelAll_noted
    (handlers : Handlers H ω)
    (given : List H)
    (d : Diary H ω) :
    (handlers.noted.cancelAll given d).watch.seen = d.watch.seen ∧
      (handlers.noted.cancelAll given d).cancelled =
        d.cancelled ++ given := by
  induction given generalizing d with
  | nil => exact ⟨rfl, (List.append_nil _).symm⟩
  | cons h rest ih =>
      rcases ih (handlers.noted.cancel h d).2 with ⟨hSeen, hCancelled⟩
      refine ⟨hSeen, hCancelled.trans ?_⟩
      exact List.append_assoc d.cancelled [h] rest

------------------------------------------------------------
-- Payloads
------------------------------------------------------------

/- A payload that is a message is handled as that message. -/
theorem receive_decoded
    (handlers : Handlers H ω)
    (handler : H)
    {octets : Octets}
    {m : Message}
    (hDecoded : Message.decode octets = .ok m)
    (w : ω) :
    handlers.receive handler octets w =
      (decide ((handlers.handle handler m w).1 ≠ .broken),
        (handlers.handle handler m w).2) := by
  unfold receive
  rw [hDecoded]
  dsimp only
  cases (handlers.handle handler m w).1 with
  | ok => rfl
  | failed detail => rfl
  | broken => rfl

/- Any other payload is dropped. -/
theorem receive_undecoded
    (handlers : Handlers H ω)
    (handler : H)
    {octets : Octets}
    {fault : Fault}
    (hDecoded : Message.decode octets = .error fault)
    (w : ω) :
    handlers.receive handler octets w = (true, w) := by
  unfold receive
  rw [hDecoded]

/- A payload is received alike in worlds that are alike. -/
theorem Steady.receive
    (hSteady : handlers.Steady alike)
    (handler : H)
    (octets : Octets)
    {v w : ω}
    (hAlike : alike v w) :
    (handlers.receive handler octets v).1 =
        (handlers.receive handler octets w).1 ∧
      alike (handlers.receive handler octets v).2
        (handlers.receive handler octets w).2 := by
  cases hDecoded : Message.decode octets with
  | error fault =>
      rw [handlers.receive_undecoded handler hDecoded,
        handlers.receive_undecoded handler hDecoded]
      exact ⟨rfl, hAlike⟩
  | ok m =>
      rcases hSteady.handled handler m hAlike with ⟨hBreaks, hWorld⟩
      rw [handlers.receive_decoded handler hDecoded,
        handlers.receive_decoded handler hDecoded]
      exact ⟨by simp [hBreaks], hWorld⟩

/- Independent handlers may receive a payload in either order. -/
theorem Independent.receive
    (hSteady : handlers.Steady alike)
    {h k : H}
    (hIndependent : handlers.Independent alike h k)
    (octets : Octets)
    (w : ω) :
    (handlers.receive h octets (handlers.receive k octets w).2).1 =
        (handlers.receive h octets w).1 ∧
      alike
        (handlers.receive h octets (handlers.receive k octets w).2).2
        (handlers.receive k octets (handlers.receive h octets w).2).2 := by
  cases hDecoded : Message.decode octets with
  | error fault =>
      simp only [handlers.receive_undecoded _ hDecoded]
      exact ⟨trivial, hSteady.equivalence.refl w⟩
  | ok m =>
      rcases hIndependent m w with ⟨hBreaks, -, hWorld⟩
      simp only [handlers.receive_decoded _ hDecoded]
      exact ⟨by simp [hBreaks], hWorld⟩

/- The world after handlers received a payload one after the other. -/
def receiveAll
    (handlers : Handlers H ω)
    (octets : Octets)
    (receivers : List H)
    (w : ω) : ω :=
  receivers.foldl (fun w h => (handlers.receive h octets w).2) w

theorem Steady.receiveAll_alike
    (hSteady : handlers.Steady alike)
    (octets : Octets)
    (receivers : List H)
    {v w : ω}
    (hAlike : alike v w) :
    alike (handlers.receiveAll octets receivers v)
      (handlers.receiveAll octets receivers w) := by
  induction receivers generalizing v w with
  | nil => exact hAlike
  | cons h rest ih => exact ih (hSteady.receive h octets hAlike).2

/-
  It makes no difference in which order independent handlers
  receive a payload.
-/
theorem Steady.receiveAll_perm
    (hSteady : handlers.Steady alike)
    (octets : Octets)
    {receivers others : List H}
    (hPerm : receivers.Perm others)
    (hIndependent : receivers.Pairwise (handlers.Independent alike))
    (w : ω) :
    alike (handlers.receiveAll octets receivers w)
      (handlers.receiveAll octets others w) := by
  induction hPerm generalizing w with
  | nil => exact hSteady.equivalence.refl w
  | cons h hPerm ih => exact ih (List.pairwise_cons.mp hIndependent).2 _
  | swap h k rest =>
      have hBoth : handlers.Independent alike k h :=
        (List.pairwise_cons.mp hIndependent).1 h List.mem_cons_self
      apply hSteady.receiveAll_alike octets rest
      exact (hBoth.symm hSteady).receive hSteady octets w |>.2
  | trans hFirst hSecond ih ih' =>
      have hLater :=
        (hFirst.pairwise_iff fun hBoth =>
          Independent.symm hSteady hBoth).mp hIndependent
      exact hSteady.equivalence.trans (ih hIndependent w) (ih' hLater w)

end Handlers

end Courier
