import Courier.Proofs.Transport.Lawful

/-
  This file says what comes of a payload that waits in several
  boxes.  The deliveries may happen in any order: the boxes
  come out the same, and the world comes out alike, if the
  handlers are independent of each other.

  Key definitions include:
    * `Box.receive`
    * `receivers`

  Main statements:
    * `receive_after_set`, `receivers_perm`
    * `Line.Lawful.deliverAll_idle`
    * `Line.Lawful.deliverAll_settles`
    * `Line.Lawful.exists_idle`
-/

namespace Courier

open Registration

variable {H τ ω ι : Type}
variable {handlers : Handlers H ω}
variable {alike : ω → ω → Prop}
variable {octets : Octets}

------------------------------------------------------------
-- Boxes after a round
------------------------------------------------------------

/- The box after its handler had the payload that waits in it. -/
def Box.receive
    (handlers : Handlers H ω)
    (octets : Octets)
    (w : ω)
    (box : Box H) : Box H :=
  if box.waiting.isEmpty then
    box
  else
    box.settle (handlers.receive box.handler octets w).1

/- The handlers of boxes in which something waits. -/
def receivers
    (boxes : List (Box H)) : List H :=
  (boxes.filter fun box => !box.waiting.isEmpty).map (·.handler)

theorem Box.receive_empty
    {box : Box H}
    (hEmpty : box.waiting = [])
    (w : ω) :
    box.receive handlers octets w = box := by
  simp [Box.receive, hEmpty]

theorem Box.receive_waiting
    {box : Box H}
    (hWaiting : box.waiting = [octets])
    (w : ω) :
    box.receive handlers octets w =
      box.settle (handlers.receive box.handler octets w).1 := by
  simp [Box.receive, hWaiting]

/- A round of nothing. -/
theorem map_receive_of_empty
    {boxes : List (Box H)}
    (hEmpty : AllEmpty boxes)
    (w : ω) :
    boxes.map (Box.receive handlers octets w) = boxes := by
  rw [List.map_congr_left fun box hMember =>
    Box.receive_empty (hEmpty box hMember) w]
  exact List.map_id' boxes

theorem receivers_of_empty
    {boxes : List (Box H)}
    (hEmpty : AllEmpty boxes) :
    receivers boxes = [] := by
  have hNone :
      (boxes.filter fun box => !box.waiting.isEmpty) = [] := by
    apply List.filter_eq_nil_iff.mpr
    intro box hMember
    simp [hEmpty box hMember]
  rw [receivers, hNone, List.map_nil]

/- One of the handlers is given the payload ahead of all others. -/
theorem receivers_perm
    {boxes : List (Box H)}
    {n : Nat}
    {box : Box H}
    (hAt : boxes[n]? = some box)
    (hWaiting : box.waiting = [octets])
    (more : Bool) :
    (receivers boxes).Perm
      (box.handler :: receivers (boxes.set n (box.settle more))) := by
  induction boxes generalizing n with
  | nil => simp at hAt
  | cons first rest ih =>
      cases n with
      | zero =>
          have hFirst : first = box := by simpa using hAt
          simp [receivers, hFirst, hWaiting, Box.settle]
      | succ n =>
          have hRest : rest[n]? = some box := by simpa using hAt
          have hPerm := ih hRest
          unfold receivers at hPerm ⊢
          rw [List.set_cons_succ, List.filter_cons, List.filter_cons]
          split
          · simp only [List.map_cons]
            exact (hPerm.cons first.handler).trans (List.Perm.swap ..)
          · exact hPerm

/- Receivers are among all handlers, in their order. -/
theorem receivers_sublist
    (boxes : List (Box H)) :
    (receivers boxes).Sublist (boxes.map (·.handler)) :=
  List.filter_sublist.map _

/- Boxes keep their handlers. -/
theorem handlers_set
    {boxes : List (Box H)}
    {n : Nat}
    {box : Box H}
    (hAt : boxes[n]? = some box)
    (more : Bool) :
    (boxes.set n (box.settle more)).map (·.handler) =
      boxes.map (·.handler) :=
  Pool.map_set_of_same hAt rfl

/-
  The other boxes come out the same after one handler was
  given the payload ahead of them.
-/
theorem receive_after_set
    (hSteady : handlers.Steady alike)
    {boxes : List (Box H)}
    (hIndependent :
      (boxes.map (·.handler)).Pairwise (handlers.Independent alike))
    (hThin : AllThin octets boxes)
    {n : Nat}
    {box : Box H}
    (hAt : boxes[n]? = some box)
    (hWaiting : box.waiting = [octets])
    (w : ω) :
    (boxes.set n
        (box.settle (handlers.receive box.handler octets w).1)).map
        (Box.receive handlers octets
          (handlers.receive box.handler octets w).2) =
      boxes.map (Box.receive handlers octets w) := by
  apply List.ext_getElem?
  intro m
  rw [List.getElem?_map, List.getElem?_map]
  by_cases hSame : n = m
  · subst hSame
    have hBound := (List.getElem?_eq_some_iff.mp hAt).1
    rw [List.getElem?_set_self hBound, hAt, Option.map_some,
      Option.map_some, Box.receive_empty rfl,
      Box.receive_waiting hWaiting]
  · rw [List.getElem?_set_ne hSame]
    cases hOther : boxes[m]? with
    | none => rfl
    | some other =>
        rw [Option.map_some, Option.map_some]
        rcases hThin other (List.mem_of_getElem? hOther) with
          hEmpty | hFull
        · rw [Box.receive_empty hEmpty, Box.receive_empty hEmpty]
        · have hBoth :
              handlers.Independent alike other.handler box.handler := by
            rw [List.pairwise_map] at hIndependent
            exact Pool.related_of_pairwise
              (fun hRelated => hRelated.symm hSteady) hIndependent
              hOther hAt (Ne.symm hSame)
          rw [Box.receive_waiting hFull, Box.receive_waiting hFull,
            (hBoth.receive hSteady octets w).1]

------------------------------------------------------------
-- Deliveries
------------------------------------------------------------

namespace Line

variable {line : Line H τ ω ι}
variable {limit : Nat}
variable {pong : Duration → Except Fault Unit}
variable {fits : List Key → τ → Prop}
variable {keys : List Key}
variable {c : Client H Nat τ ω}

/- Deliveries change nothing where nothing waits. -/
theorem Lawful.deliverAll_idle
    (hLawful : line.Lawful handlers limit pong fits)
    (hFits : fits keys c.state.transport)
    (hIdle : line.Idle c)
    (places : List ι) :
    line.deliverAll handlers places c = c := by
  unfold deliverAll
  induction places with
  | nil => rfl
  | cons place rest ih =>
      rw [List.foldl_cons]
      rcases (hLawful.deliver hFits (hIdle.thin []) place).2 with
        hSame | ⟨n, box, b, hAt, hWaiting, -, -⟩
      · rw [hSame]
        exact ih
      · have hEmpty := hIdle box (List.mem_of_getElem? hAt)
        exact absurd (hEmpty.symm.trans hWaiting) nofun

/- One delivery leaves at most the payload in each other box. -/
theorem Delivers.thin
    {n : Nat}
    {c' : Client H Nat τ ω}
    (hDelivers : line.Delivers handlers octets n c c')
    (hThin : AllThin octets (line.boxes c.state.transport)) :
    AllThin octets (line.boxes c'.state.transport) := by
  rcases hDelivers with ⟨box, b, hAt, hWaiting, rfl, hBoxes⟩
  intro other hMember
  change other ∈ line.boxes b at hMember
  rw [hBoxes] at hMember
  rcases List.mem_or_eq_of_mem_set hMember with hOld | rfl
  · exact hThin other hOld
  · exact Or.inl rfl

/-
  All deliveries of one payload together: each box comes out as
  if its handler had been the first to receive it.
-/
theorem Lawful.deliverAll_settles
    (hLawful : line.Lawful handlers limit pong fits)
    (hSteady : handlers.Steady alike)
    (hFits : fits keys c.state.transport)
    (hThin : AllThin octets (line.boxes c.state.transport))
    (hIndependent :
      ((line.boxes c.state.transport).map (·.handler)).Pairwise
        (handlers.Independent alike))
    (places : List ι)
    (hIdle : line.Idle (line.deliverAll handlers places c)) :
    ∃ b w,
      line.deliverAll handlers places c =
        (c.withTransport b).withWorld w ∧
      fits keys b ∧
      line.boxes b =
        (line.boxes c.state.transport).map
          (Box.receive handlers octets c.state.world) ∧
      alike w
        (handlers.receiveAll octets
          (receivers (line.boxes c.state.transport)) c.state.world) := by
  -- What the deliveries so far have left is settled by the rest.
  induction places generalizing c with
  | nil =>
      have hEmpty : AllEmpty (line.boxes c.state.transport) := hIdle
      refine ⟨c.state.transport, c.state.world, rfl, hFits, ?_, ?_⟩
      · exact (map_receive_of_empty hEmpty _).symm
      · rw [receivers_of_empty hEmpty]
        exact hSteady.equivalence.refl _
  | cons place rest ih =>
      have hDelivery := hLawful.deliver hFits hThin place
      rcases hDelivery with ⟨hFits', hSame | ⟨n, hDelivers⟩⟩
      · have hRest :
            line.deliverAll handlers (place :: rest) c =
              line.deliverAll handlers rest c := by
          unfold deliverAll
          rw [List.foldl_cons, hSame]
        rw [hRest] at hIdle ⊢
        exact ih hFits hThin hIndependent hIdle
      · have hThin' := hDelivers.thin hThin
        have hRest :
            line.deliverAll handlers (place :: rest) c =
              line.deliverAll handlers rest
                (line.deliver handlers place c) := rfl
        rw [hRest] at hIdle ⊢
        generalize line.deliver handlers place c = c'
          at hDelivers hFits' hThin' hIdle ⊢
        rcases hDelivers with ⟨box, b, hAt, hWaiting, rfl, hBoxes⟩
        have hIndependent' :
            ((line.boxes b).map (·.handler)).Pairwise
              (handlers.Independent alike) := by
          rw [hBoxes, handlers_set hAt]
          exact hIndependent
        rcases ih hFits' hThin' hIndependent' hIdle with
          ⟨last, w, hAll, hFitsLast, hBoxesLast, hWorld⟩
        refine ⟨last, w, hAll, hFitsLast, ?_, ?_⟩
        · rw [hBoxesLast]
          change (line.boxes b).map _ = _
          rw [hBoxes]
          exact receive_after_set hSteady hIndependent hThin hAt hWaiting _
        -- The handler was first, wherever its box stands.
        · change alike w (handlers.receiveAll octets
            (box.handler :: receivers (line.boxes b))
            c.state.world) at hWorld
          rw [hBoxes] at hWorld
          have hPerm :=
            receivers_perm hAt hWaiting
              (handlers.receive box.handler octets c.state.world).1
          have hOrder :=
            hSteady.receiveAll_perm octets hPerm
              (hIndependent.sublist (receivers_sublist _)) c.state.world
          exact hSteady.equivalence.trans hWorld
            (hSteady.equivalence.symm hOrder)

/- All that waits can be delivered. -/
theorem Lawful.exists_idle
    (hLawful : line.Lawful handlers limit pong fits)
    (hFits : fits keys c.state.transport)
    (hThin : AllThin octets (line.boxes c.state.transport)) :
    ∃ places, line.Idle (line.deliverAll handlers places c) := by
  -- Each delivery leaves one receiver less.
  induction hLeft : (receivers (line.boxes c.state.transport)).length
      generalizing c with
  | zero =>
      refine ⟨[], ?_⟩
      intro box hMember
      change box ∈ line.boxes c.state.transport at hMember
      by_contra hSome
      have hReceiver :
          box.handler ∈ receivers (line.boxes c.state.transport) := by
        apply List.mem_map_of_mem
        simpa [hSome] using hMember
      rw [List.length_eq_zero_iff.mp hLeft] at hReceiver
      exact absurd hReceiver List.not_mem_nil
  | succ left ih =>
      rcases List.exists_mem_of_length_eq_add_one hLeft with
        ⟨handler, hMember⟩
      rcases List.mem_map.mp hMember with ⟨box, hBox, rfl⟩
      rcases List.mem_filter.mp hBox with ⟨hIn, hSome⟩
      have hWaiting : box.waiting = [octets] := by
        rcases hThin box hIn with hEmpty | hFull
        · simp [hEmpty] at hSome
        · exact hFull
      rcases List.mem_iff_getElem?.mp hIn with ⟨n, hAt⟩
      rcases hLawful.deliverable hFits hThin hAt hWaiting with
        ⟨place, hDelivers⟩
      have hFits' := (hLawful.deliver hFits hThin place).1
      have hThin' := hDelivers.thin hThin
      have hLeft' :
          (receivers (line.boxes
            (line.deliver handlers place c).state.transport)).length =
              left := by
        generalize line.deliver handlers place c = c' at hDelivers ⊢
        rcases hDelivers with ⟨box', b, hAt', -, rfl, hBoxes⟩
        cases hAt.symm.trans hAt'
        change (receivers (line.boxes b)).length = left
        have hPerm :=
          receivers_perm hAt hWaiting
            (handlers.receive box.handler octets c.state.world).1
        have hLength := hPerm.length_eq
        rw [← hBoxes, hLeft, List.length_cons] at hLength
        exact (Nat.add_right_cancel hLength).symm
      rcases ih hFits' hThin' hLeft' with ⟨rest, hIdle⟩
      exact ⟨place :: rest, hIdle⟩

end Line

end Courier
