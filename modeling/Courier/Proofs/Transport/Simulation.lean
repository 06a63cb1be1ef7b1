import Courier.Proofs.Transport.Delivery
import Courier.Proofs.Transport.LocalLine
import Courier.Proofs.Transport.Matching
import Courier.Proofs.Transport.NatsLine
import Courier.Transport.Connect

/-
  This file shows that a client of a NATS server cannot be told
  from one of a broker in memory, as long as handlers are given
  what waits before the next call is made, but for two things.
  A ping waits no longer than allowed for a server, while a
  broker in memory answers at once.  And a broker in memory
  panics at ids that no thread can be named after.

  Main statements:
    * `Listener.steady`, `Listener.independent`
    * `Nats.converses_as_local`
    * `Nats.told_from_local`
-/

namespace Courier

open Registration

variable {H ω : Type}

/- The client of a NATS server that has just connected. -/
def Nats.create
    (root : String)
    (server : Server)
    (world : ω) : NatsClient H ω :=
  Client.create root (.create server) world

/- New clients match if their handlers are in worlds that are alike. -/
theorem matched_create
    {alike : ω → ω → Prop}
    (root : String)
    (recording : Bool)
    (server : Nats.Server)
    {world world' : ω}
    (hAlike : alike world world') :
    Matched LocalBroker.line (fun _ b => b.Serving)
      Nats.line (Nats.Fitting server) root alike
      (LocalClient.create root recording (Diary.start world) :
        LocalClient H (Diary H ω))
      (Nats.create root server (Diary.start world')) where
  sound :=
    ⟨[], ⟨rfl, ⟨rfl, rfl⟩, .empty⟩,
      ⟨rfl, ⟨⟨rfl, rfl, rfl⟩, nofun⟩, .empty⟩⟩
  boxes_eq := rfl
  table_eq := fun _ => rfl
  closed_eq := rfl
  seen := .nil
  cancelled := .nil
  world := fun _ => hAlike

/-
  Make any calls on a client of a NATS server and on one of a
  broker in memory, under the same root.  Between two calls all
  that waits is delivered, in any order.  The calls come to an
  end on both sides, and the accounts of them are the same on
  both sides: what each call returned, which keys have a
  subscription after it, which handlers were cancelled, and
  which messages each handler has received.  Only a ping that
  the broker in memory answers may be too short for the server
  to answer.

  The root and the patterns of topics are well-formed, threads
  can be named after clients, and messages are no larger than
  the server takes.  The handlers do the same on both sides.
  Any two that are subscribed may be given a message in either
  order, as neither transport promises one.
-/
theorem Nats.converses_as_local
    [DecidableEq H]
    {handlers : Handlers H ω}
    {alike : ω → ω → Prop}
    (hSteady : handlers.Steady alike)
    {root : String}
    (hRoot : root = "" ∨ Topic.IsSubject root)
    (recording : Bool)
    {server : Server}
    {asks : List (Ask H)}
    (hAllowed : ∀ ask ∈ asks, ask.Allowed server.maxPayload)
    (hIndependent :
      (asks.filterMap Ask.handler?).Pairwise
        (handlers.Independent alike))
    {world world' : ω}
    (hAlike : alike world world') :
    (∃ accounts accounts',
      LocalBroker.line.Converses handlers
        (LocalClient.create root recording (.start world)) asks accounts ∧
      Nats.line.Converses handlers
        (Nats.create root server (.start world')) asks accounts') ∧
    ∀ accounts accounts',
      LocalBroker.line.Converses handlers
        (LocalClient.create root recording (.start world)) asks accounts →
      Nats.line.Converses handlers
        (Nats.create root server (.start world')) asks accounts' →
      accounts' =
        List.zipWith (Account.heard (answer server.delay)) asks
          accounts := by
  have hLawful := LocalBroker.lawful handlers.noted server.maxPayload
  have hLawful' := Nats.lawful handlers.noted server
  have hMatched := matched_create (H := H) root recording server hAlike
  have hIdle :
      LocalBroker.line.Idle
        (LocalClient.create root recording (Diary.start world) :
          LocalClient H (Diary H ω)) :=
    fun _ hMember => absurd hMember List.not_mem_nil
  constructor
  · exact hMatched.exists_converses hSteady hLawful hLawful' hRoot hIdle
      hAllowed hIndependent
  · intro accounts accounts' hConverses hConverses'
    exact hMatched.converses hSteady hLawful hLawful' hRoot hIdle
      hAllowed hIndependent hConverses hConverses'

------------------------------------------------------------
-- Listeners
------------------------------------------------------------

namespace Listener

/- Listeners do the same, whatever they were given before. -/
theorem steady :
    handlers.Steady fun _ _ => True := by
  constructor
  · exact ⟨fun _ => trivial, fun _ => trivial, fun _ _ => trivial⟩
  · intro l v w _
    refine ⟨?_, trivial⟩
    simp only [handlers, cancel]
    split
    · rfl
    · split
      · rfl
      · rfl
  · intro l m v w _
    refine ⟨?_, trivial⟩
    simp only [handlers, handle]
    split
    · rfl
    · split
      · rfl
      · rfl

/- Any of them may be given a message first. -/
theorem independent
    (l k : Listener) :
    handlers.Independent (fun _ _ => True) l k :=
  fun m _ =>
    ⟨(steady.handled l m trivial).1, (steady.handled k m trivial).1,
      trivial⟩

end Listener

/- A listener that keeps what it is given. -/
def keeper : Listener where
  id := 0
  name := "keeper"
  silent := false
  handleError := none
  cancelError := none
  breaks := false

/-
  It subscribes to all topics, is given a message, and is
  cancelled.  Two pings are sent in between.
-/
def greetings : List (Ask Listener) :=
  [.subscribe Session.listening keeper,
    .publish "c1" Session.greeting,
    .ping (.ofMilliseconds 1),
    .ping (.ofMilliseconds 10),
    .close]

/- A server that takes five milliseconds to answer. -/
def Nats.Server.leisurely : Nats.Server :=
  { Server.healthy with delay := .ofMilliseconds 5 }

/- Nobody can tell on which side the listener is greeted. -/
theorem Nats.greeted_as_local :
    (∃ accounts,
      LocalBroker.line.Converses Listener.handlers
        (LocalClient.create "channels" false (.start .empty))
        greetings accounts ∧
      Nats.line.Converses Listener.handlers
        (Nats.create "channels" .leisurely (.start .empty)) greetings
        (List.zipWith (Account.heard (answer (.ofMilliseconds 5)))
          greetings accounts)) := by
  have hAllowed :
      ∀ ask ∈ greetings, ask.Allowed Server.leisurely.maxPayload := by
    intro ask hMember
    simp only [greetings, List.mem_cons, List.not_mem_nil, or_false]
      at hMember
    rcases hMember with rfl | rfl | rfl | rfl | rfl
    · exact ⟨Or.inr (by decide), by decide⟩
    · change Session.greeting.encode.length ≤ 1048576
      decide
    · exact trivial
    · exact trivial
    · exact trivial
  have hIndependent :
      (greetings.filterMap Ask.handler?).Pairwise
        (Listener.handlers.Independent fun _ _ => True) :=
    List.pairwise_of_forall Listener.independent
  have hRoot : "channels" = "" ∨ Topic.IsSubject "channels" :=
    Or.inr (by decide)
  rcases Nats.converses_as_local Listener.steady hRoot false hAllowed
      hIndependent trivial with
    ⟨⟨accounts, accounts', hLocal, hRemote⟩, hSame⟩
  rw [hSame accounts accounts' hLocal hRemote] at hRemote
  exact ⟨accounts, hLocal, hRemote⟩

/- The key of a client whose id no thread can be named after. -/
def unnameable : Key where
  client := "a\x00b"
  topic := "channels.c1"

/-
  A client of a server is told from one of a broker in memory
  by a ping that is not to wait at all, and by subscribing with
  an id that holds a null character.
-/
theorem Nats.told_from_local :
    (LocalClient.create "channels" false () : LocalClient Unit Unit).ping
        LocalBroker.transport .zero = .ok () ∧
    (Nats.create "channels" .leisurely () : NatsClient Unit Unit).ping
        Nats.transport .zero =
      .error (.connection "NATS ping timed out after 0ns") ∧
    ((LocalClient.create "channels" false ()).subscribe
        LocalBroker.transport Session.busy unnameable ()).1 =
      .error .panicked ∧
    ((Nats.create "channels" .leisurely ()).subscribe
        Nats.transport Session.busy unnameable ()).1 = .ok () := by
  refine ⟨rfl, by decide, ?_, ?_⟩
  · rw [Client.subscribe_panicked_free rfl rfl rfl rfl (by decide)]
  · rw [Client.subscribe_free rfl rfl rfl rfl rfl rfl]

end Courier
