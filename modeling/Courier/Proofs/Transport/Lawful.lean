import Courier.Proofs.Pool
import Courier.Proofs.Transport.Calls
import Courier.Proofs.Transport.Steadiness

/-
  This file says what clients ask of a transport, whatever it
  is: each subscription has a box of its own, a message goes
  into the boxes of the subscriptions that cover its subject,
  and a delivery passes what waits in one box to its handler.

  From these laws follows what each call on a client comes to,
  in terms of the boxes alone.

  Key definitions include:
    * `Box.shut`, `Box.post`, `Box.settle`
    * `Tallied`
    * `Line.Lawful`
    * `Line.Sound`

  Main statements:
    * `Tallied.install`, `Tallied.uninstall`
    * `Line.Sound.subscribe_free`, `Line.Sound.subscribe_taken`
    * `Line.Sound.unsubscribe_taken`
    * `Line.Sound.close_open`
    * `Line.Sound.publish_sent`
-/

namespace Courier

open Registration

variable {H τ ω ι : Type}

------------------------------------------------------------
-- Boxes
------------------------------------------------------------

namespace Box

/- The box of a new subscription. -/
def fresh
    (handler : H) : Box H where
  handler := handler
  live := true
  waiting := []

/- Let nothing come to wait any more. -/
def shut
    (box : Box H) : Box H :=
  { box with live := false }

/- Let a payload wait, if the key of the box covers its subject. -/
def post
    (subject : String)
    (octets : Octets)
    (key : Key)
    (box : Box H) : Box H :=
  if box.live && Topic.covers key.topic subject then
    { box with waiting := box.waiting ++ [octets] }
  else
    box

/-
  Take out all that waits, after the handler had it.  The box
  of a handler that cannot be given more takes nothing more.
-/
def settle
    (more : Bool)
    (box : Box H) : Box H :=
  { box with waiting := [], live := box.live && more }

end Box

/- At most one payload waits in each of some boxes, the same in all. -/
def AllThin
    (octets : Octets)
    (boxes : List (Box H)) : Prop :=
  ∀ box ∈ boxes, box.waiting = [] ∨ box.waiting = [octets]

theorem AllEmpty.thin
    {boxes : List (Box H)}
    (hEmpty : AllEmpty boxes)
    (octets : Octets) :
    AllThin octets boxes :=
  fun box hMember => Or.inl (hEmpty box hMember)

theorem AllEmpty.modify_shut
    {boxes : List (Box H)}
    (hEmpty : AllEmpty boxes)
    (n : Nat) :
    AllEmpty (boxes.modify n Box.shut) := by
  intro box hMember
  rcases List.mem_iff_getElem?.mp hMember with ⟨m, hAt⟩
  rw [List.getElem?_modify] at hAt
  rcases Option.map_eq_some_iff.mp hAt with ⟨old, hOld, rfl⟩
  have hOldEmpty := hEmpty old (List.mem_of_getElem? hOld)
  split
  · exact hOldEmpty
  · exact hOldEmpty

theorem AllEmpty.append_fresh
    {boxes : List (Box H)}
    (hEmpty : AllEmpty boxes)
    (handler : H) :
    AllEmpty (boxes ++ [.fresh handler]) := by
  intro box hMember
  rcases List.mem_append.mp hMember with hOld | hNew
  · exact hEmpty box hOld
  · rw [List.mem_singleton.mp hNew]
    rfl

/- A box that is shut keeps its handler. -/
theorem handlers_modify_shut
    (boxes : List (Box H))
    (n : Nat) :
    (boxes.modify n Box.shut).map (·.handler) =
      boxes.map (·.handler) := by
  have hKept : ∀ box ∈ boxes, box.shut.handler = id box.handler :=
    fun _ _ => rfl
  rw [Pool.map_modify hKept, List.modify_id]

/- So does one in which a payload comes to wait. -/
theorem Box.post_frame
    (subject : String)
    (octets : Octets)
    (key : Key)
    (box : Box H) :
    (box.post subject octets key).handler = box.handler ∧
      (box.post subject octets key).live = box.live := by
  unfold Box.post
  split
  · exact ⟨rfl, rfl⟩
  · exact ⟨rfl, rfl⟩

theorem AllEmpty.post_thin
    {boxes : List (Box H)}
    (hEmpty : AllEmpty boxes)
    (subject : String)
    (octets : Octets)
    (keys : List Key) :
    AllThin octets (List.zipWith (Box.post subject octets) keys boxes) := by
  intro box hMember
  rcases List.mem_iff_getElem?.mp hMember with ⟨n, hAt⟩
  rcases List.getElem?_zipWith_eq_some.mp hAt with
    ⟨key, old, -, hOld, rfl⟩
  have hOldEmpty := hEmpty old (List.mem_of_getElem? hOld)
  unfold Box.post
  split
  · right
    simp [hOldEmpty]
  · exact Or.inl hOldEmpty

theorem handlers_post
    (subject : String)
    (octets : Octets)
    {keys : List Key}
    {boxes : List (Box H)}
    (hLength : keys.length = boxes.length) :
    (List.zipWith (Box.post subject octets) keys boxes).map (·.handler) =
      boxes.map (·.handler) := by
  induction boxes generalizing keys with
  | nil => simp
  | cons box rest ih =>
      cases keys with
      | nil => exact absurd hLength nofun
      | cons key others =>
          have hRest := ih (Nat.add_right_cancel hLength)
          rw [List.zipWith_cons_cons, List.map_cons, List.map_cons, hRest,
            (Box.post_frame subject octets key box).1]

/- Shut the boxes with some numbers. -/
def shutAll
    (bindings : List Nat)
    (boxes : List (Box H)) : List (Box H) :=
  bindings.foldl (fun boxes n => boxes.modify n Box.shut) boxes

theorem getElem?_shutAll
    (bindings : List Nat)
    (boxes : List (Box H))
    (n : Nat) :
    (shutAll bindings boxes)[n]? =
      boxes[n]?.map fun box => if n ∈ bindings then box.shut else box := by
  unfold shutAll
  induction bindings generalizing boxes with
  | nil => simp
  | cons first rest ih =>
      rw [List.foldl_cons, ih, List.getElem?_modify]
      cases boxes[n]? with
      | none => rfl
      | some box =>
          by_cases hFirst : first = n
          · by_cases hRest : n ∈ rest
            · simp [hFirst, hRest, Box.shut]
            · simp [hFirst, hRest]
          · simp [hFirst, Ne.symm hFirst]

------------------------------------------------------------
-- Boxes and subscriptions
------------------------------------------------------------

/-
  The subscriptions of a registry have boxes, which were made
  for some keys, and all boxes that are live belong to them.
-/
structure Tallied
    (keys : List Key)
    (r : Registry H Nat)
    (boxes : List (Box H)) : Prop where
  usable : r.poisoned = false
  length : keys.length = boxes.length
  patterns : ∀ key ∈ keys, Topic.IsPattern key.topic
  registered :
    ∀ {key s}, r.table.get? key = some s →
      keys[s.binding]? = some key ∧
        ∃ box, boxes[s.binding]? = some box ∧ box.handler = s.handler
  live :
    ∀ {n : Nat} {box}, boxes[n]? = some box → box.live = true →
      ∃ key, keys[n]? = some key ∧
        r.table.get? key = some ⟨box.handler, n⟩

namespace Tallied

variable {keys : List Key}
variable {r : Registry H Nat}
variable {boxes boxes' : List (Box H)}

/- Nothing is to be tallied before anybody subscribes. -/
theorem empty :
    Tallied [] (Registry.empty : Registry H Nat) [] where
  usable := rfl
  length := rfl
  patterns := nofun
  registered := nofun
  live := nofun

/- Boxes keep their handlers, and none becomes live. -/
theorem keep
    (hTallied : Tallied keys r boxes)
    (hLength : boxes'.length = boxes.length)
    (hBoxes :
      ∀ (n : Nat) box box', boxes[n]? = some box → boxes'[n]? = some box' →
        box'.handler = box.handler ∧ (box'.live = true → box.live = true)) :
    Tallied keys r boxes' := by
  have hBoth :
      ∀ {n : Nat} {box'}, boxes'[n]? = some box' →
        ∃ box, boxes[n]? = some box := by
    intro n box' hAt
    have hBound := (List.getElem?_eq_some_iff.mp hAt).1
    exact ⟨_, List.getElem?_eq_getElem (hLength ▸ hBound)⟩
  constructor
  · exact hTallied.usable
  · exact hTallied.length.trans hLength.symm
  · exact hTallied.patterns
  · intro key s hFound
    rcases hTallied.registered hFound with ⟨hKey, box, hAt, hHandler⟩
    have hBound := (List.getElem?_eq_some_iff.mp hAt).1
    have hAt' := List.getElem?_eq_getElem (hLength.symm ▸ hBound)
    rcases hBoxes _ _ _ hAt hAt' with ⟨hSame, -⟩
    exact ⟨hKey, _, hAt', hSame.trans hHandler⟩
  · intro n box' hAt' hLive
    rcases hBoth hAt' with ⟨box, hAt⟩
    rcases hBoxes _ _ _ hAt hAt' with ⟨hSame, hLess⟩
    rw [hSame]
    exact hTallied.live hAt (hLess hLive)

/- Subscriptions that are read in another order stay as they are. -/
theorem reordered
    {r' : Registry H Nat}
    (hTallied : Tallied keys r boxes)
    (hReordered : r.Reordered r') :
    Tallied keys r' boxes := by
  have hSame := Table.get?_eq_of_reordered hReordered.1
  constructor
  · exact hReordered.2 ▸ hTallied.usable
  · exact hTallied.length
  · exact hTallied.patterns
  · intro key s hFound
    exact hTallied.registered (hSame key ▸ hFound)
  · intro n box hAt hLive
    rcases hTallied.live hAt hLive with ⟨key, hKey, hFound⟩
    exact ⟨key, hKey, (hSame key).trans hFound⟩

/- A key is given a new box, and no other box of it is live. -/
theorem install
    {key : Key}
    {handler : H}
    (hTallied : Tallied keys r boxes)
    (hPattern : Topic.IsPattern key.topic)
    (hLength : boxes'.length = boxes.length)
    (hBoxes :
      ∀ (n : Nat) box box', boxes[n]? = some box → boxes'[n]? = some box' →
        box'.handler = box.handler ∧
          (box'.live = true → box.live = true ∧ keys[n]? ≠ some key)) :
    Tallied (keys ++ [key])
      { r with table := r.table.insert key ⟨handler, boxes.length⟩ }
      (boxes' ++ [.fresh handler]) := by
  have hKept : Tallied keys r boxes' := by
    apply hTallied.keep hLength
    intro n box box' hAt hAt'
    rcases hBoxes n box box' hAt hAt' with ⟨hSame, hLess⟩
    exact ⟨hSame, fun hLive => (hLess hLive).1⟩
  have hLast : (keys ++ [key])[boxes.length]? = some key := by
    rw [← hTallied.length]
    exact List.getElem?_concat_length
  have hLastBox :
      (boxes' ++ [.fresh handler])[boxes.length]? = some (.fresh handler) := by
    rw [← hLength]
    exact List.getElem?_concat_length
  constructor
  · exact hTallied.usable
  · simp [hKept.length]
  · intro other hMember
    rcases List.mem_append.mp hMember with hOld | hNew
    · exact hTallied.patterns other hOld
    · rw [List.mem_singleton.mp hNew]
      exact hPattern
  · intro other s hFound
    rw [Table.get?_insert] at hFound
    split at hFound
    · rename_i hSame
      cases hFound
      exact ⟨hSame ▸ hLast, _, hLastBox, rfl⟩
    · rcases hKept.registered hFound with ⟨hKey, box, hAt, hHandler⟩
      refine ⟨?_, box, ?_, hHandler⟩
      · rw [List.getElem?_append_left]
        · exact hKey
        · exact (List.getElem?_eq_some_iff.mp hKey).1
      · rw [List.getElem?_append_left]
        · exact hAt
        · exact (List.getElem?_eq_some_iff.mp hAt).1
  · intro n box hAt hLive
    rcases Pool.joined_cases hAt with hOld | ⟨rfl, rfl⟩
    · rcases hKept.live hOld hLive with ⟨other, hKey, hFound⟩
      have hBound := (List.getElem?_eq_some_iff.mp hOld).1
      have hAtOld := List.getElem?_eq_getElem (hLength ▸ hBound)
      have hOther := ((hBoxes _ _ _ hAtOld hOld).2 hLive).2
      refine ⟨other, ?_, ?_⟩
      · rw [List.getElem?_append_left]
        · exact hKey
        · exact (List.getElem?_eq_some_iff.mp hKey).1
      · rw [Table.get?_insert, if_neg]
        · exact hFound
        · rintro rfl
          exact hOther hKey
    · refine ⟨key, hLength ▸ hLast, ?_⟩
      rw [Table.get?_insert, if_pos rfl, hLength]
      rfl

/- The subscription of a key is taken out, and its box is shut. -/
theorem uninstall
    {key : Key}
    {s : Subscription H Nat}
    (hTallied : Tallied keys r boxes)
    (hFound : r.table.get? key = some s) :
    Tallied keys { r with table := r.table.erase key }
      (boxes.modify s.binding Box.shut) := by
  have hKey := (hTallied.registered hFound).1
  constructor
  · exact hTallied.usable
  · simp [hTallied.length]
  · exact hTallied.patterns
  · intro other v hOther
    rw [Table.get?_erase] at hOther
    split at hOther
    · exact absurd hOther nofun
    · rcases hTallied.registered hOther with ⟨hKey', box, hAt, hHandler⟩
      refine ⟨hKey', ?_⟩
      rw [List.getElem?_modify, hAt]
      split
      · exact ⟨box.shut, rfl, hHandler⟩
      · exact ⟨box, rfl, hHandler⟩
  · intro n box hAt hLive
    rw [List.getElem?_modify] at hAt
    rcases Option.map_eq_some_iff.mp hAt with ⟨old, hOld, rfl⟩
    split at hLive
    · exact absurd hLive nofun
    · rename_i hApart
      rw [if_neg hApart]
      rcases hTallied.live hOld hLive with ⟨other, hKey', hFound'⟩
      refine ⟨other, hKey', ?_⟩
      rw [Table.get?_erase, if_neg]
      · exact hFound'
      · rintro rfl
        rw [hFound] at hFound'
        exact hApart (Option.some.inj hFound' ▸ rfl)

end Tallied

------------------------------------------------------------
-- Lawful transports
------------------------------------------------------------

namespace Line

/-
  The payload that waits in a box was passed to its handler,
  and nothing else happened.
-/
def Delivers
    (line : Line H τ ω ι)
    (handlers : Handlers H ω)
    (octets : Octets)
    (n : Nat)
    (c c' : Client H Nat τ ω) : Prop :=
  ∃ box b,
    (line.boxes c.state.transport)[n]? = some box ∧
    box.waiting = [octets] ∧
    c' =
      (c.withTransport b).withWorld
        (handlers.receive box.handler octets c.state.world).2 ∧
    line.boxes b =
      (line.boxes c.state.transport).set n
        (box.settle
          (handlers.receive box.handler octets c.state.world).1)

/-
  What clients ask of a transport that takes messages up to a
  given size and answers pings in a given way.  How its state
  fits the keys that boxes were made for is its own concern.
-/
structure Lawful
    (line : Line H τ ω ι)
    (handlers : Handlers H ω)
    (limit : Nat)
    (pong : Duration → Except Fault Unit)
    (fits : List Key → τ → Prop) : Prop where
  ready :
    ∀ {keys b}, fits keys b → line.transport.ready b = .ok ()
  ping :
    ∀ {keys b}, fits keys b →
      ∀ patience, line.transport.ping patience b = pong patience
  disconnect : ∀ b, line.transport.disconnect b = (.ok (), b)
  calm :
    ∀ {key : Key}, '\x00' ∉ key.client.toList →
      line.transport.panics key = false
  /- A new subscription has a new box. -/
  bind :
    ∀ {keys b}, fits keys b → keys.length = (line.boxes b).length →
      ∀ key handler, ∃ b',
        line.transport.bind key handler b =
          (.ok (line.boxes b).length, b') ∧
        line.boxes b' = line.boxes b ++ [.fresh handler] ∧
        fits (keys ++ [key]) b'
  /- A box is shut when its subscription is given up. -/
  unbind :
    ∀ {keys b}, fits keys b → AllEmpty (line.boxes b) →
      ∀ n, ∃ b',
        line.transport.unbind n b = (.ok (), b') ∧
        line.boxes b' = (line.boxes b).modify n Box.shut ∧
        fits keys b'
  /- A message goes into the boxes whose keys cover its subject. -/
  send :
    ∀ {keys b r}, fits keys b → Tallied keys r (line.boxes b) →
      AllEmpty (line.boxes b) →
      ∀ {subject m}, Topic.IsSubject subject → m.encode.length ≤ limit →
        ∃ b',
          line.transport.send r subject m b = (.ok (), b') ∧
          line.boxes b' =
            List.zipWith (Box.post subject m.encode) keys
              (line.boxes b) ∧
          fits keys b'
  /- A delivery changes one box, or nothing at all. -/
  deliver :
    ∀ {keys c octets}, fits keys c.state.transport →
      AllThin octets (line.boxes c.state.transport) →
      ∀ place,
        fits keys (line.deliver handlers place c).state.transport ∧
        (line.deliver handlers place c = c ∨
          ∃ n, line.Delivers handlers octets n c
            (line.deliver handlers place c))
  /- What waits can be delivered. -/
  deliverable :
    ∀ {keys c octets}, fits keys c.state.transport →
      AllThin octets (line.boxes c.state.transport) →
      ∀ {n box}, (line.boxes c.state.transport)[n]? = some box →
        box.waiting = [octets] →
        ∃ place, line.Delivers handlers octets n c
          (line.deliver handlers place c)

/- A client on a lawful transport, with boxes for some keys. -/
structure Sound
    (line : Line H τ ω ι)
    (fits : List Key → τ → Prop)
    (root : String)
    (keys : List Key)
    (c : Client H Nat τ ω) : Prop where
  root_eq : c.state.root = root
  fits : fits keys c.state.transport
  tallied :
    Tallied keys c.registry (line.boxes c.state.transport)

------------------------------------------------------------
-- Calls on a lawful transport
------------------------------------------------------------

section Calls

variable [DecidableEq H]
variable {line : Line H τ ω ι}
variable {handlers : Handlers H ω}
variable {limit : Nat}
variable {pong : Duration → Except Fault Unit}
variable {fits : List Key → τ → Prop}
variable (hLawful : line.Lawful handlers limit pong fits)
variable {root : String}
variable {keys : List Key}
variable {c : Client H Nat τ ω}
variable (hSound : line.Sound fits root keys c)
variable (hOpen : c.state.closed = false)

include hLawful hSound hOpen

/- A key without a subscription is given one, with a new box. -/
theorem Sound.subscribe_free
    {key : Key}
    (hCheck : key.check = .ok ())
    (hPattern : Topic.IsPattern key.topic)
    (hClient : '\x00' ∉ key.client.toList)
    (hFree : c.registry.table.get? key = none)
    (handler : H) :
    ∃ c',
      c.subscribe line.transport handlers key handler = (.ok (), c') ∧
      line.Sound fits root (keys ++ [key]) c' ∧
      c'.registry.table =
        c.registry.table.insert key
          ⟨handler, (line.boxes c.state.transport).length⟩ ∧
      line.boxes c'.state.transport =
        line.boxes c.state.transport ++ [.fresh handler] ∧
      c'.state.closed = false ∧
      c'.state.world = c.state.world := by
  rcases hLawful.bind hSound.fits hSound.tallied.length key handler with
    ⟨b, hBind, hBoxes, hFits⟩
  refine ⟨_, Client.subscribe_free hOpen hSound.tallied.usable hCheck hFree
    (hLawful.calm hClient) hBind, ⟨hSound.root_eq, hFits, ?_⟩, rfl, hBoxes,
    hOpen, rfl⟩
  change Tallied _ _ (line.boxes b)
  rw [hBoxes]
  apply hSound.tallied.install hPattern rfl
  intro n box box' hAt hAt'
  cases hAt.symm.trans hAt'
  refine ⟨rfl, fun hLive => ⟨hLive, ?_⟩⟩
  intro hKey
  rcases hSound.tallied.live hAt hLive with ⟨other, hOther, hFound⟩
  cases hOther.symm.trans hKey
  exact absurd (hFree.symm.trans hFound) nofun

variable (hEmpty : AllEmpty (line.boxes c.state.transport))

include hEmpty

/- A subscription gives way to a new one, with a new box. -/
theorem Sound.subscribe_taken
    {key : Key}
    {old : Subscription H Nat}
    {world : ω}
    (hCheck : key.check = .ok ())
    (hPattern : Topic.IsPattern key.topic)
    (hClient : '\x00' ∉ key.client.toList)
    (hTaken : c.registry.table.get? key = some old)
    (hCancel :
      handlers.cancel old.handler c.state.world = (.ok (), world))
    (handler : H) :
    ∃ c',
      c.subscribe line.transport handlers key handler = (.ok (), c') ∧
      line.Sound fits root (keys ++ [key]) c' ∧
      c'.registry.table =
        c.registry.table.insert key
          ⟨handler, (line.boxes c.state.transport).length⟩ ∧
      line.boxes c'.state.transport =
        (line.boxes c.state.transport).modify old.binding Box.shut ++
          [.fresh handler] ∧
      c'.state.closed = false ∧
      c'.state.world = world := by
  rcases hLawful.bind hSound.fits hSound.tallied.length key handler with
    ⟨b, hBind, hBoxes, hFits⟩
  rcases hSound.tallied.registered hTaken with ⟨hKey, box, hAt, -⟩
  have hBound := (List.getElem?_eq_some_iff.mp hAt).1
  rcases hLawful.unbind hFits (hBoxes ▸ hEmpty.append_fresh handler)
      old.binding with
    ⟨b', hUnbind, hBoxes', hFits'⟩
  rw [hBoxes, Pool.modify_joined hBound] at hBoxes'
  have hCall :=
    Client.subscribe_replaced hOpen hSound.tallied.usable hCheck hTaken
      hCancel (hLawful.calm hClient) hBind
  rw [hUnbind] at hCall
  refine ⟨_, hCall, ⟨hSound.root_eq, hFits', ?_⟩, rfl, hBoxes', hOpen, rfl⟩
  change Tallied _ _ (line.boxes b')
  rw [hBoxes']
  apply hSound.tallied.install hPattern (List.length_modify ..)
  intro n before after hBefore hAfter
  rw [List.getElem?_modify, hBefore] at hAfter
  by_cases hSame : old.binding = n
  · have hShut : before.shut = after := by simpa [hSame] using hAfter
    rw [← hShut]
    exact ⟨rfl, nofun⟩
  · have hKept : before = after := by simpa [hSame] using hAfter
    rw [← hKept]
    refine ⟨rfl, fun hLive => ⟨hLive, ?_⟩⟩
    intro hKey'
    rcases hSound.tallied.live hBefore hLive with ⟨other, hOther, hFound⟩
    cases hOther.symm.trans hKey'
    cases hTaken.symm.trans hFound
    exact hSame rfl

/- A subscription is given up, and its box is shut. -/
theorem Sound.unsubscribe_taken
    {key : Key}
    {old : Subscription H Nat}
    (hCheck : key.check = .ok ())
    (hTaken : c.registry.table.get? key = some old) :
    ∃ c',
      c.unsubscribe line.transport handlers key =
        (match (handlers.cancel old.handler c.state.world).1 with
          | .ok () => .ok ()
          | .error detail => .error (.handlerCancel detail), c') ∧
      line.Sound fits root keys c' ∧
      c'.registry.table = c.registry.table.erase key ∧
      line.boxes c'.state.transport =
        (line.boxes c.state.transport).modify old.binding Box.shut ∧
      c'.state.closed = false ∧
      c'.state.world =
        (handlers.cancel old.handler c.state.world).2 := by
  rcases hLawful.unbind hSound.fits hEmpty old.binding with
    ⟨b, hUnbind, hBoxes, hFits⟩
  have hCall : c.unsubscribe line.transport handlers key = _ :=
    Client.unsubscribe_taken hOpen hSound.tallied.usable hCheck hTaken
  rw [hUnbind] at hCall
  refine ⟨_, hCall, ⟨hSound.root_eq, hFits, ?_⟩, rfl, hBoxes, hOpen, rfl⟩
  change Tallied _ _ (line.boxes b)
  rw [hBoxes]
  exact hSound.tallied.uninstall hTaken

/- A message waits in all boxes whose keys cover its subject. -/
omit [DecidableEq H] in
theorem Sound.publish_sent
    {topic subject : String}
    {m : Message}
    (hCheck : m.checkFor topic = .ok ())
    (hBuild : Topic.build c.state.root topic m.subtopic = .ok subject)
    (hSubject : Topic.IsSubject subject)
    (hSize : m.encode.length ≤ limit) :
    ∃ c',
      c.publish line.transport topic m = (.ok (), c') ∧
      line.Sound fits root keys c' ∧
      c'.registry = c.registry ∧
      line.boxes c'.state.transport =
        List.zipWith (Box.post subject m.encode) keys
          (line.boxes c.state.transport) ∧
      c'.state.closed = false ∧
      c'.state.world = c.state.world := by
  rcases hLawful.send hSound.fits hSound.tallied hEmpty hSubject hSize with
    ⟨b, hSend, hBoxes, hFits⟩
  have hCall : c.publish line.transport topic m = (.ok (), c.withTransport b) := by
    simp [Client.publish, hCheck, hOpen, hLawful.ready hSound.fits, hBuild,
      hSend]
  refine ⟨_, hCall, ⟨hSound.root_eq, hFits, ?_⟩, rfl, hBoxes, hOpen, rfl⟩
  change Tallied _ _ (line.boxes b)
  rw [hBoxes]
  apply hSound.tallied.keep
  · simp [hSound.tallied.length]
  · intro n box box' hAt hAt'
    rw [List.getElem?_zipWith, hAt] at hAt'
    cases hKey : keys[n]? with
    | none =>
        rw [hKey] at hAt'
        exact absurd hAt' nofun
    | some key =>
        rw [hKey] at hAt'
        cases hAt'
        rcases Box.post_frame subject m.encode key box with
          ⟨hHandler, hLive⟩
        exact ⟨hHandler, fun h => hLive ▸ h⟩

omit hSound hOpen [DecidableEq H] in
/-
  Subscriptions are given up one after the other: all handlers
  are cancelled, and all boxes are shut.
-/
theorem Lawful.giveUp
    (hFits : fits keys c.state.transport)
    (given : List (Subscription H Nat)) :
    ∃ b,
      c.giveUp line.transport handlers given =
        (c.withWorld
          (handlers.cancelAll (given.map (·.handler))
            c.state.world)).withTransport b ∧
      line.boxes b =
        shutAll (given.map (·.binding))
          (line.boxes c.state.transport) ∧
      fits keys b := by
  induction given generalizing c with
  | nil => exact ⟨_, rfl, rfl, hFits⟩
  | cons s rest ih =>
      rcases hLawful.unbind hFits hEmpty s.binding with
        ⟨b, hUnbind, hBoxes, hFits'⟩
      let c' : Client H Nat τ ω :=
        (c.withWorld (handlers.cancel s.handler c.state.world).2).withTransport b
      have hEmpty' : AllEmpty (line.boxes c'.state.transport) := by
        change AllEmpty (line.boxes b)
        rw [hBoxes]
        exact hEmpty.modify_shut s.binding
      rcases ih (c := c') hEmpty' hFits' with ⟨last, hRest, hShut, hFits''⟩
      refine ⟨last, ?_, ?_, hFits''⟩
      · unfold Client.giveUp at hRest ⊢
        rw [List.foldl_cons, hUnbind]
        exact hRest
      · rw [hShut]
        change shutAll _ (line.boxes b) = _
        rw [hBoxes]
        rfl

/- Closing cancels all handlers and shuts all boxes. -/
theorem Sound.close_open :
    ∃ c',
      c.close line.transport handlers = (.ok (), c') ∧
      line.Sound fits root keys c' ∧
      c'.registry.table = .empty ∧
      line.boxes c'.state.transport =
        (line.boxes c.state.transport).map Box.shut ∧
      c'.state.closed = true ∧
      c'.state.world =
        handlers.cancelAll
          (c.registry.table.entries.map (·.2.handler)) c.state.world := by
  let given := c.registry.table.entries.map (·.2)
  rcases hLawful.giveUp (c := c.shut) hEmpty hSound.fits given with
    ⟨b, hGiven, hShut, hFits⟩
  have hCall : c.close line.transport handlers = _ :=
    Client.close_open hOpen hSound.tallied.usable
  rw [hGiven, hLawful.disconnect] at hCall
  have hBoxes :
      line.boxes b = (line.boxes c.state.transport).map Box.shut := by
    rw [hShut]
    apply List.ext_getElem?
    intro n
    rw [getElem?_shutAll, List.getElem?_map]
    change (line.boxes c.state.transport)[n]?.map _ = _
    cases hAt : (line.boxes c.state.transport)[n]? with
    | none => rfl
    | some box =>
        simp only [Option.map_some]
        split
        · rfl
        · rename_i hUnbound
          -- A box that no subscription has is not live any more.
          have hDead : box.live = false := by
            by_contra hLive
            rw [Bool.not_eq_false] at hLive
            rcases hSound.tallied.live hAt hLive with ⟨key, -, hFound⟩
            apply hUnbound
            have hEntry := (Table.mem_entries_iff _ _ _).mpr hFound
            exact List.mem_map.mpr
              ⟨_, List.mem_map_of_mem (f := (·.2)) hEntry, rfl⟩
          rw [Box.shut, ← hDead]
  refine ⟨_, hCall, ⟨hSound.root_eq, hFits, ?_⟩, rfl, hBoxes, rfl, ?_⟩
  · change Tallied keys _ (line.boxes b)
    rw [hBoxes]
    constructor
    · exact hSound.tallied.usable
    · simp [hSound.tallied.length]
    · exact hSound.tallied.patterns
    · exact nofun
    · intro n box hAt hLive
      rw [List.getElem?_map] at hAt
      rcases Option.map_eq_some_iff.mp hAt with ⟨old, -, rfl⟩
      exact absurd hLive nofun
  · change handlers.cancelAll (given.map (·.handler)) c.state.world = _
    rw [List.map_map]
    rfl

end Calls

end Line

end Courier
