import Courier.Registration.Run

/-
  This file defines scripts of calls on one registry, in which
  a callback may follow a script of its own, and the trace
  that a script leaves.

  Each subscription of a script brings a new handler and a new
  binding under one name.  A handler follows its script only
  when it is cancelled for the first time.

  A call that gives all subscriptions up visits them in no set
  order, so its part of the trace is put in the order of their
  names.

  Key definitions include:
    * `Script.Step`
    * `Script.Mark`
    * `Script.Answer`
    * `Script.run`
-/

namespace Courier.Registration

namespace Script

------------------------------------------------------------
-- Steps
------------------------------------------------------------

/- A step of a script. -/
inductive Step where
  /-
    Subscribe a new handler.  Each callback follows a script
    and then fails if it has a text to fail with.
  -/
  | subscribe
      (key : Key)
      (name : String)
      (onCancel onBind onUnbind : List Step)
      (cancelError bindError unbindError : Option String)
  | unsubscribe (key : Key)
  | clear
  /- Ask whether a key has a subscription. -/
  | contains (key : Key)
  /- Ask how many subscriptions there are. -/
  | size
  /- Visit the subscriptions that cover a subject. -/
  | route (subject : String)
  /- Break off at the first subscription that covers a subject. -/
  | poison (subject : String)

mutual

/- How many steps a step stands for at most. -/
def Step.count : Step → Nat
  | .subscribe _ _ onCancel onBind onUnbind _ _ _ =>
      countAll onCancel + countAll onBind + countAll onUnbind + 1
  | _ => 1

/- How many steps a script stands for at most. -/
def countAll : List Step → Nat
  | [] => 0
  | step :: rest => step.count + countAll rest

end

/- What a step comes to. -/
inductive Answer where
  | returned (result : Except Fault Unit)
  | present (b : Bool)
  | number (n : Nat)
  /- The subscriptions that were visited, by key and name. -/
  | visited (result : Except Fault (List (Key × String)))
  /- Whether a visit was broken off. -/
  | broken (result : Except Fault Bool)

------------------------------------------------------------
-- Traces
------------------------------------------------------------

/- What a trace tells. -/
inductive Mark where
  | cancel (name : String)
  | bind (name : String)
  | unbind (name : String)
  /- A callback took a step of its own. -/
  | nested (step : Step) (answer : Answer)

/-
  The part of a trace before the first handler is cancelled,
  and the parts from there on, each with the name of its
  handler.
-/
def cut : List Mark → List Mark × List (String × List Mark)
  | [] => ([], [])
  | mark :: rest =>
      let (first, others) := cut rest
      match mark with
      | .cancel name => ([], (name, mark :: first) :: others)
      | _ => (mark :: first, others)

/- A trace with its parts in the order of their names. -/
def inOrder
    (trace : List Mark) : List Mark :=
  let (first, others) := cut trace
  first ++ (others.mergeSort fun a b => decide (a.1 ≤ b.1)).flatMap (·.2)

------------------------------------------------------------
-- Actors
------------------------------------------------------------

/- A handler and its binding. -/
structure Actor where
  name : String
  onCancel : List Step
  onBind : List Step
  onUnbind : List Step
  cancelError : Option String
  bindError : Option String
  unbindError : Option String
  /- Whether the handler was cancelled before. -/
  cancelled : Bool

/- The actor that goes by no name and does nothing. -/
def Actor.nobody : Actor where
  name := ""
  onCancel := []
  onBind := []
  onUnbind := []
  cancelError := none
  bindError := none
  unbindError := none
  cancelled := false

/- The actors so far, and the trace of the step at hand. -/
structure Stage where
  actors : Array Actor
  trace : List Mark

/- A registry in which handlers and bindings are actors. -/
abbrev Play :=
  Scene Nat Nat Stage

namespace Play

/- The registry without subscriptions, and no actors. -/
def opening : Play where
  registry := .empty
  state := { actors := #[], trace := [] }

/- An actor. -/
def actor
    (p : Play)
    (id : Nat) : Actor :=
  p.state.actors.getD id .nobody

/- Leave a mark. -/
def mark
    (p : Play)
    (m : Mark) : Play :=
  { p with state := { p.state with trace := p.state.trace ++ [m] } }

/- Let a new actor come on. -/
def enter
    (p : Play)
    (a : Actor) : Play :=
  { p with state := { p.state with actors := p.state.actors.push a } }

/- Remember that a handler was cancelled. -/
def leave
    (p : Play)
    (id : Nat) : Play :=
  let actors :=
    p.state.actors.modify id fun a => { a with cancelled := true }
  { p with state := { p.state with actors := actors } }

/- The names of subscriptions by their keys. -/
def names
    (p : Play)
    (subscriptions : List (Key × Subscription Nat Nat)) :
    List (Key × String) :=
  subscriptions.map fun (key, s) => (key, (p.actor s.binding).name)

/- Forget the trace. -/
def clean
    (p : Play) : Play :=
  { p with state := { p.state with trace := [] } }

end Play

------------------------------------------------------------
-- Performing
------------------------------------------------------------

/- The outcome of a callback. -/
def outcome
    {ε : Type}
    (fault : String → ε) : Option String → Except ε Unit
  | none => .ok ()
  | some detail => .error (fault detail)

/- What callbacks do that follow their scripts in a given way. -/
def callbacks
    (follow : List Step → Play → Play) : Callbacks Nat Nat Stage where
  cancel := fun id (p : Play) =>
    let a := p.actor id
    let p := p.mark (.cancel a.name)
    let p : Play := if a.cancelled then p else follow a.onCancel (p.leave id)
    (outcome (fun detail => detail) a.cancelError, p)
  bind := fun _ id (p : Play) =>
    let a := p.actor id
    let p := follow a.onBind (p.mark (.bind a.name))
    ((outcome .connection a.bindError).map fun _ => id, p)
  unbind := fun id (p : Play) =>
    let a := p.actor id
    let p := follow a.onUnbind (p.mark (.unbind a.name))
    (outcome .connection a.unbindError, p)

/- Make a call. -/
def call
    (follow : List Step → Play → Play)
    (request : Request Nat)
    (p : Play) : Answer × Play :=
  let (result, p) := Call.run (callbacks follow) request p
  (.returned result, p)

/- Take a step, with callbacks that follow their scripts. -/
def take
    (follow : List Step → Play → Play)
    (step : Step)
    (p : Play) : Answer × Play :=
  match step with
  | .subscribe key name onCancel onBind onUnbind
      cancelError bindError unbindError =>
      let p := p.enter
        { name, onCancel, onBind, onUnbind
          cancelError, bindError, unbindError
          cancelled := false }
      call follow (.subscribe key (p.state.actors.size - 1)) p
  | .unsubscribe key => call follow (.unsubscribe key) p
  | .clear =>
      let before := p.state.trace
      let (answer, p) := call follow .clear p.clean
      (answer,
        { p with
          state :=
            { p.state with trace := before ++ inOrder p.state.trace } })
  | .contains key => (.present (p.registry.contains key), p)
  | .size => (.number p.registry.size, p)
  | .route subject =>
      (.visited ((p.registry.route subject).map p.names), p)
  | .poison subject =>
      match p.registry.route subject with
      | .error fault => (.broken (.error fault), p)
      | .ok [] => (.broken (.ok false), p)
      | .ok (_ :: _) =>
          (.broken (.ok true), { p with registry := p.registry.poison })

/-
  Follow a script inside a callback, where callbacks go no
  deeper than the fuel allows.
-/
def follow : Nat → List Step → Play → Play
  | 0, _, p => p
  | fuel + 1, script, p =>
      script.foldl
        (fun p step =>
          let (answer, p) := take (follow fuel) step p
          p.mark (.nested step answer))
        p

/- What a step came to, its trace, and how much was left. -/
structure Report where
  answer : Answer
  trace : List Mark
  size : Nat

/-
  Follow a script.  Each step is taken once at most, so that
  callbacks go no deeper than there are steps.
-/
def run
    (script : List Step) : List Report :=
  let fuel := countAll script
  let (reports, _) :=
    script.foldl
      (fun (reports, p) step =>
        let (answer, p) := take (follow fuel) step p.clean
        (reports ++ [⟨answer, p.state.trace, p.registry.size⟩], p))
      ([], Play.opening)
  reports

end Script

end Courier.Registration
