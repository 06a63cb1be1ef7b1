import Courier.Proofs.Registration.Table
import Courier.Registration.Run
import Mathlib.Logic.Function.Basic

/-
  This file defines the machine that a registry has to be like
  when its calls are made one after the other.

  The machine works on a map from keys to subscriptions, and
  says for each call which callbacks run, in which order, and
  what their outcomes lead to.  What an outcome is, the
  callbacks choose as they like.  All that runs is written
  down in a journal.

  Key definitions include:
    * `Happening`, `Journal`
    * `Answers`, `Answers.callbacks`
    * `Served`
    * `Reference.subscribe`, `Reference.unsubscribe`
    * `Reference.Serves`
    * `Registry.Serves`
-/

namespace Courier.Registration

------------------------------------------------------------
-- Callbacks and their journal
------------------------------------------------------------

/- A callback that ran, with what it came to. -/
inductive Happening (H B : Type) where
  /- A handler was cancelled, or failed to be. -/
  | cancel (handler : H) (outcome : Except String Unit)
  /- A binding was made, or failed to be. -/
  | bind (key : Key) (handler : H) (outcome : Except Fault B)
  /- A binding was given up, or failed to be. -/
  | unbind (binding : B) (outcome : Except Fault Unit)

/- What callbacks depend on, and what has run so far. -/
structure Journal (H B σ : Type) where
  state : σ
  log : List (Happening H B)

/- A journal in which nothing has been written yet. -/
def Journal.opened
    {H B σ : Type}
    (state : σ) : Journal H B σ where
  state := state
  log := []

/- How callbacks come out that make no calls themselves. -/
structure Answers (H B σ : Type) where
  cancel : H → σ → Except String Unit × σ
  bind : Key → H → σ → Except Fault B × σ
  unbind : B → σ → Except Fault Unit × σ

namespace Answers

variable {H B σ : Type}

/- Cancel a handler, and write that down. -/
def cancelled
    (answers : Answers H B σ)
    (handler : H)
    (j : Journal H B σ) : Except String Unit × Journal H B σ :=
  let (outcome, state) := answers.cancel handler j.state
  (outcome, { state, log := j.log ++ [.cancel handler outcome] })

/- Make a binding, and write that down. -/
def bound
    (answers : Answers H B σ)
    (key : Key)
    (handler : H)
    (j : Journal H B σ) : Except Fault B × Journal H B σ :=
  let (outcome, state) := answers.bind key handler j.state
  (outcome, { state, log := j.log ++ [.bind key handler outcome] })

/- Give a binding up, and write that down. -/
def unbound
    (answers : Answers H B σ)
    (b : B)
    (j : Journal H B σ) : Except Fault Unit × Journal H B σ :=
  let (outcome, state) := answers.unbind b j.state
  (outcome, { state, log := j.log ++ [.unbind b outcome] })

/- The callbacks that come out so and leave the registry alone. -/
def callbacks
    (answers : Answers H B σ) : Callbacks H B (Journal H B σ) where
  cancel handler s :=
    let (outcome, j) := answers.cancelled handler s.state
    (outcome, { s with state := j })
  bind key handler s :=
    let (outcome, j) := answers.bound key handler s.state
    (outcome, { s with state := j })
  unbind b s :=
    let (outcome, j) := answers.unbound b s.state
    (outcome, { s with state := j })

end Answers

------------------------------------------------------------
-- Calls one after the other
------------------------------------------------------------

/-
  Some calls were made one after the other and had these
  results, given what a single call may do to a state.
-/
inductive Served
    {H S : Type}
    (serves : S → Request H → Except Fault Unit → S → Prop)
    (first : S) : List (Request H × Except Fault Unit) → S → Prop where
  | start : Served serves first [] first
  | next
      {history : List (Request H × Except Fault Unit)}
      {request : Request H}
      {result : Except Fault Unit}
      {s s' : S}
      (hEarlier : Served serves first history s)
      (hCall : serves s request result s') :
      Served serves first (history ++ [(request, result)]) s'

------------------------------------------------------------
-- The reference machine
------------------------------------------------------------

namespace Reference

variable {H B σ : Type}

/- What the reference machine works on. -/
structure State (H B σ : Type) where
  map : Key → Option (Subscription H B)
  journal : Journal H B σ

/-
  Refuse a key whose client is empty, then one whose topic is,
  before anything runs.
-/
def checked
    (key : Key)
    (s : State H B σ)
    (out : Except Fault Unit × State H B σ) :
    Except Fault Unit × State H B σ :=
  if key.client = "" then
    (.error .emptyId, s)
  else if key.topic = "" then
    (.error .emptyTopic, s)
  else
    out

/- Subscribe on a key that has no subscription. -/
def subscribeFree
    (answers : Answers H B σ)
    (key : Key)
    (handler : H)
    (s : State H B σ) : Except Fault Unit × State H B σ :=
  match answers.bound key handler s.journal with
  | (.error fault, j) => (.error fault, { s with journal := j })
  | (.ok b, j) =>
      (.ok (), ⟨Function.update s.map key (some ⟨handler, b⟩), j⟩)

/- Subscribe on a key that has a subscription. -/
def subscribeTaken
    (answers : Answers H B σ)
    (key : Key)
    (handler : H)
    (old : Subscription H B)
    (s : State H B σ) : Except Fault Unit × State H B σ :=
  match answers.cancelled old.handler s.journal with
  | (.error detail, j) =>
      (.error (.handlerCancel detail), { s with journal := j })
  | (.ok (), j) =>
      match answers.bound key handler j with
      | (.error fault, j) =>
          (.error fault,
            { map := Function.update s.map key none
              journal := (answers.unbound old.binding j).2 })
      | (.ok b, j) =>
          (.ok (),
            { map := Function.update s.map key (some ⟨handler, b⟩)
              journal := (answers.unbound old.binding j).2 })

/- Subscribe a handler. -/
def subscribe
    (answers : Answers H B σ)
    (key : Key)
    (handler : H)
    (s : State H B σ) : Except Fault Unit × State H B σ :=
  checked key s <|
    match s.map key with
    | none => subscribeFree answers key handler s
    | some old => subscribeTaken answers key handler old s

/-
  Cancel a subscription, then give its binding up.  The
  failure to cancel comes before the failure to unbind.
-/
def giveUp
    (answers : Answers H B σ)
    (old : Subscription H B)
    (j : Journal H B σ) : Except Fault Unit × Journal H B σ :=
  match answers.cancelled old.handler j with
  | (.error detail, j) =>
      (.error (.handlerCancel detail), (answers.unbound old.binding j).2)
  | (.ok (), j) => answers.unbound old.binding j

/- Give the subscription of a key up. -/
def unsubscribe
    (answers : Answers H B σ)
    (key : Key)
    (s : State H B σ) : Except Fault Unit × State H B σ :=
  checked key s <|
    match s.map key with
    | none => (.error .notSubscribed, s)
    | some old =>
        let (result, j) := giveUp answers old s.journal
        (result, ⟨Function.update s.map key none, j⟩)

/- Give some subscriptions up, however that comes out. -/
def giveUpAll
    (answers : Answers H B σ) :
    List (Subscription H B) → Journal H B σ → Journal H B σ
  | [], j => j
  | old :: rest, j => giveUpAll answers rest (giveUp answers old j).2

/- Some entries list a map, each key with a value once. -/
structure Lists
    (entries : List (Key × Subscription H B))
    (map : Key → Option (Subscription H B)) : Prop where
  distinct : (entries.map (·.1)).Nodup
  mem_iff :
    ∀ key old, (key, old) ∈ entries ↔ map key = some old

/-
  What a call may do.  A call that gives all subscriptions up
  visits them in any order.
-/
inductive Serves
    (answers : Answers H B σ) :
    State H B σ → Request H → Except Fault Unit → State H B σ → Prop where
  | subscribe
      (key : Key)
      (handler : H)
      (s : State H B σ) :
      Serves answers s (.subscribe key handler)
        (subscribe answers key handler s).1
        (subscribe answers key handler s).2
  | unsubscribe
      (key : Key)
      (s : State H B σ) :
      Serves answers s (.unsubscribe key)
        (unsubscribe answers key s).1
        (unsubscribe answers key s).2
  | clear
      {entries : List (Key × Subscription H B)}
      {s : State H B σ}
      (hLists : Lists entries s.map) :
      Serves answers s .clear (.ok ())
        { map := fun _ => none
          journal := giveUpAll answers (entries.map (·.2)) s.journal }

end Reference

------------------------------------------------------------
-- Calls on a registry
------------------------------------------------------------

/-
  What a call on a registry does, with the entries of its
  table in the order in which they happen to be read.
-/
def Registry.Serves
    {H B σ : Type}
    [DecidableEq H]
    (answers : Answers H B σ)
    (s : Scene H B (Journal H B σ))
    (request : Request H)
    (result : Except Fault Unit)
    (s' : Scene H B (Journal H B σ)) : Prop :=
  ∃ r : Registry H B,
    s.registry.Reordered r ∧
    Call.run answers.callbacks request { s with registry := r } =
      (result, s')

end Courier.Registration
