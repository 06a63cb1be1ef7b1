import Courier.Amqp.Broker
import Courier.Nats.Broker
import Courier.Proofs.Topic.Subjects
import Courier.Proofs.Transport.Advance
import Courier.Transport.Connect

/-
  The subjects that the messages of a connected client travel
  under.  The settings of the client are checked once, when it
  is connected, the channel and the subtopic of a message each
  time one is published.

  Together the checks keep wildcards and blanks out of every
  subject.  Nobody checks the root for empty segments, and that
  is the one way in which a subject can come to have some.

  Key definitions include:
    * `Topic.IsDestination`
    * `Client.Later`
    * `BrokerSettings.Connects`

  Main statements:
    * `BrokerSettings.validate_eq_ok_iff`
    * `Topic.not_reserved_of_build`
    * `Topic.isDestination_of_build_iff`
    * `Client.Later.root_eq`
    * `BrokerSettings.Connects.destination`
-/

namespace Courier

open Registration

------------------------------------------------------------
-- Destinations
------------------------------------------------------------

namespace Topic

/-
  A subject that a server takes as it is: no segment of it is
  empty, and none holds a wildcard or a blank.
-/
def IsDestination
    (subject : String) : Prop :=
  ∀ segment ∈ segments subject.toList,
    segment ≠ [] ∧
      ∀ c ∈ segment, isWildcard c = false ∧ Text.isBlank c = false

instance
    (subject : String) :
    Decidable (IsDestination subject) :=
  @List.decidableBAll _
    (fun segment =>
      segment ≠ [] ∧
        ∀ c ∈ segment, isWildcard c = false ∧ Text.isBlank c = false)
    (fun segment =>
      @instDecidableAnd (segment ≠ []) _ inferInstance
        (List.decidableBAll
          (fun c => isWildcard c = false ∧ Text.isBlank c = false)
          segment))
    _

/- The channel and the parts of a subtopic hold nothing reserved. -/
theorem not_reserved_below_root
    {root channel raw subject : String}
    (hBuild : build root channel raw = .ok subject) :
    ∀ segment ∈ channel.toList :: parts (normalize raw),
      ∀ c ∈ segment, isWildcard c = false ∧ Text.isBlank c = false := by
  rcases build_eq_ok_iff.mp hBuild with ⟨_, hPlain, _⟩
  intro segment hSegment c hMember
  rcases List.mem_cons.mp hSegment with rfl | hPart
  · have hFree := hPlain c hMember
    simp only [isReserved, Bool.or_eq_false_iff] at hFree
    exact ⟨hFree.1.2, hFree.2⟩
  · rw [parts_normalize] at hPart
    rcases (isClean_of_mem_kept hPart).2 c hMember with
      ⟨hWildcard, hSeparator⟩
    simp only [isSeparator, Bool.or_eq_false_iff] at hSeparator
    exact ⟨hWildcard, hSeparator.2⟩

/- The parts of a root hold nothing reserved, if the root does not. -/
theorem not_reserved_of_root
    {root : String}
    (hRoot : BrokerSettings.hasReserved root = false) :
    ∀ segment ∈ parts root,
      ∀ c ∈ segment, isWildcard c = false ∧ Text.isBlank c = false := by
  intro segment hSegment c hMember
  have hNone : root ≠ "" := by
    rintro rfl
    exact absurd hSegment List.not_mem_nil
  rw [parts_of_ne_empty hNone] at hSegment
  have hFree :=
    List.any_eq_false.mp hRoot c (mem_of_mem_segments hSegment hMember)
  simpa using hFree

/- So what is built below such a root holds nothing reserved. -/
theorem not_reserved_of_build
    {root channel raw subject : String}
    (hRoot : BrokerSettings.hasReserved root = false)
    (hBuild : build root channel raw = .ok subject) :
    ∀ segment ∈ segments subject.toList,
      ∀ c ∈ segment, isWildcard c = false ∧ Text.isBlank c = false := by
  intro segment hSegment
  rw [segments_of_build hBuild] at hSegment
  rcases List.mem_append.mp hSegment with hAbove | hBelow
  · exact not_reserved_of_root hRoot segment hAbove
  · exact not_reserved_below_root hBuild segment hBelow

/- An empty segment of a root is one of every subject below it. -/
theorem isSubject_root_of_build
    {root channel raw subject : String}
    (hBuild : build root channel raw = .ok subject)
    (hSubject : IsSubject subject) :
    root = "" ∨ IsSubject root := by
  by_cases hNone : root = ""
  · exact Or.inl hNone
  · refine Or.inr fun segment hSegment => ?_
    apply hSubject segment
    rw [segments_of_build hBuild, parts_of_ne_empty hNone]
    exact List.mem_append_left _ hSegment

/- What is built is a destination, if the root is one or empty. -/
theorem isDestination_of_build_iff
    {root channel raw subject : String}
    (hRoot : BrokerSettings.hasReserved root = false)
    (hBuild : build root channel raw = .ok subject) :
    IsDestination subject ↔ root = "" ∨ IsSubject root := by
  constructor
  · intro hDestination
    exact isSubject_root_of_build hBuild
      fun segment hSegment => (hDestination segment hSegment).1
  · intro hSegments segment hSegment
    exact ⟨isSubject_of_build hSegments hBuild segment hSegment,
      not_reserved_of_build hRoot hBuild segment hSegment⟩

end Topic

------------------------------------------------------------
-- Settings
------------------------------------------------------------

namespace BrokerSettings

/- What is checked of settings. -/
theorem validate_eq_ok_iff
    {s : BrokerSettings} :
    s.validate = .ok () ↔
      (s.kind = .memory ∨ s.url ≠ "") ∧
        hasReserved s.root = false ∧
        (s.kind = .amqp → s.exchange ≠ "") := by
  simp only [validate]
  split_ifs with hUrl hRoot hExchange <;>
    simp_all [String.isEmpty_iff, imp_iff_not_or]

end BrokerSettings

------------------------------------------------------------
-- Clients as time goes on
------------------------------------------------------------

namespace Client

variable {H B τ ω : Type}

/-
  A message that was taken was sent under the subject that is
  built from the root of the client, its topic and its subtopic.
-/
theorem sent_of_publish
    {t : Transport H B τ}
    {topic : String}
    {m : Message}
    {c c' : Client H B τ ω}
    (hPublish : publish t topic m c = (.ok (), c')) :
    ∃ subject transport,
      Topic.build c.state.root topic m.subtopic = .ok subject ∧
        t.send c.registry subject m c.state.transport =
          (.ok (), transport) ∧
        c' = c.withTransport transport := by
  unfold publish at hPublish
  split at hPublish
  · cases hPublish
  · split at hPublish
    · cases hPublish
    · split at hPublish
      · cases hPublish
      · split at hPublish
        · cases hPublish
        · rename_i subject hSubject
          rcases Prod.mk.injEq .. ▸ hPublish with ⟨hResult, rfl⟩
          exact ⟨subject, _, hSubject, Prod.ext hResult rfl, rfl⟩

/- Publishing leaves the root alone. -/
theorem root_publish
    (t : Transport H B τ)
    (topic : String)
    (m : Message)
    (c : Client H B τ ω) :
    (publish t topic m c).2.state.root = c.state.root := by
  unfold publish
  split
  · rfl
  · split
    · rfl
    · split
      · rfl
      · split <;> rfl

/- A step of a call leaves the root alone as well. -/
theorem root_step
    [DecidableEq H]
    {t : Transport H B τ}
    {handlers : Handlers H ω}
    {call call' : Call H B}
    {c c' : Client H B τ ω}
    (hStep : call.step t handlers c = (call', c')) :
    c'.state.root = c.state.root := by
  cases Call.stepped_of_step hStep with
  | @within inner hInner hInner' => cases inner <;> rfl
  | marked closed hBefore hAfter => rfl
  | disconnected hBefore hAfter => rfl

/-
  What may have become of a client.  Calls on it take steps in
  any order, messages are published, and below it and in its
  handlers anything happens: messages are delivered, and the
  connection is lost or comes back.
-/
inductive Later
    [DecidableEq H]
    (t : Transport H B τ)
    (handlers : Handlers H ω)
    (c : Client H B τ ω) : Client H B τ ω → Prop where
  | now : Later t handlers c c
  | call
      {call call' : Call H B}
      {c' c'' : Client H B τ ω}
      (hLater : Later t handlers c c')
      (hStep : call.step t handlers c' = (call', c'')) :
      Later t handlers c c''
  | publish
      (topic : String)
      (m : Message)
      {c' : Client H B τ ω}
      (hLater : Later t handlers c c') :
      Later t handlers c (publish t topic m c').2
  | beyond
      (transport : τ)
      (world : ω)
      {c' : Client H B τ ω}
      (hLater : Later t handlers c c') :
      Later t handlers c ((c'.withTransport transport).withWorld world)
  | reorder
      {r : Registry H B}
      {c' : Client H B τ ω}
      (hLater : Later t handlers c c')
      (hReordered : c'.registry.Reordered r) :
      Later t handlers c { c' with registry := r }

/- A client keeps its root. -/
theorem Later.root_eq
    [DecidableEq H]
    {t : Transport H B τ}
    {handlers : Handlers H ω}
    {c c' : Client H B τ ω}
    (hLater : Later t handlers c c') :
    c'.state.root = c.state.root := by
  induction hLater with
  | now => rfl
  | call hLater hStep ih => exact (root_step hStep).trans ih
  | publish topic m hLater ih =>
      exact (root_publish t topic m _).trans ih
  | beyond transport world hLater ih => exact ih
  | reorder hLater hReordered ih => exact ih

end Client

------------------------------------------------------------
-- Connected clients
------------------------------------------------------------

namespace BrokerSettings

variable {H ω : Type}

/- The clients that are connected with some settings. -/
inductive Connects
    (settings : BrokerSettings)
    (world : ω) :
    {τ : Type} → Transport H Nat τ → Client H Nat τ ω → Prop where
  | memory
      {c : LocalClient H ω}
      (hConnect : LocalClient.connect settings world = .ok c) :
      Connects settings world LocalBroker.transport c
  | nats
      (server : Nats.Server)
      {c : Nats.NatsClient H ω}
      (hConnect : Nats.connect settings server world = .ok c) :
      Connects settings world Nats.transport c
  | amqp
      (server : Amqp.Server)
      {c : Amqp.AmqpClient H ω}
      (hConnect : Amqp.connect settings server world = .ok c) :
      Connects settings world Amqp.transport c

/- Settings are checked before anything else. -/
theorem validate_of_bind
    {α : Type}
    {settings : BrokerSettings}
    {rest : Unit → Except Fault α}
    {a : α}
    (hBind : settings.validate >>= rest = .ok a) :
    settings.validate = .ok () ∧ rest () = .ok a := by
  cases hValidate : settings.validate with
  | error fault =>
      rw [hValidate] at hBind
      cases hBind
  | ok checked =>
      rw [hValidate] at hBind
      exact ⟨rfl, hBind⟩

/- A client that was connected has the root of checked settings. -/
theorem Connects.checked
    {settings : BrokerSettings}
    {world : ω}
    {τ : Type}
    {t : Transport H Nat τ}
    {c : Client H Nat τ ω}
    (hConnects : Connects settings world t c) :
    settings.validate = .ok () ∧ c.state.root = settings.root := by
  cases hConnects with
  | memory hConnect =>
      rcases validate_of_bind hConnect with ⟨hValid, hRest⟩
      refine ⟨hValid, ?_⟩
      split at hRest
      · cases hRest
        rfl
      · cases hRest
      · cases hRest
  | nats server hConnect =>
      rcases validate_of_bind hConnect with ⟨hValid, hRest⟩
      refine ⟨hValid, ?_⟩
      split_ifs at hRest
      cases hRest
      rfl
  | amqp server hConnect =>
      rcases validate_of_bind hConnect with ⟨hValid, hRest⟩
      refine ⟨hValid, ?_⟩
      split_ifs at hRest
      cases hRest
      rfl

/-
  Every message that a connected client takes, whatever became
  of the client before, is sent under a subject without wildcards
  and blanks.  The subject has an empty segment only if the root
  in the settings has one.
-/
theorem Connects.destination
    [DecidableEq H]
    {settings : BrokerSettings}
    {world : ω}
    {τ : Type}
    {t : Transport H Nat τ}
    {handlers : Handlers H ω}
    {c c' c'' : Client H Nat τ ω}
    {topic : String}
    {m : Message}
    (hConnects : Connects settings world t c)
    (hLater : Client.Later t handlers c c')
    (hPublish : Client.publish t topic m c' = (.ok (), c'')) :
    ∃ subject transport,
      Topic.build settings.root topic m.subtopic = .ok subject ∧
        t.send c'.registry subject m c'.state.transport =
          (.ok (), transport) ∧
        c'' = c'.withTransport transport ∧
        (∀ segment ∈ Topic.segments subject.toList,
          ∀ x ∈ segment,
            Topic.isWildcard x = false ∧ Text.isBlank x = false) ∧
        (Topic.IsDestination subject ↔
          settings.root = "" ∨ Topic.IsSubject settings.root) := by
  rcases hConnects.checked with ⟨hValid, hRoot⟩
  have hFree := (validate_eq_ok_iff.mp hValid).2.1
  rcases Client.sent_of_publish hPublish with
    ⟨subject, transport, hBuild, hSend, hAfter⟩
  rw [hLater.root_eq, hRoot] at hBuild
  exact ⟨subject, transport, hBuild, hSend, hAfter,
    Topic.not_reserved_of_build hFree hBuild,
    Topic.isDestination_of_build_iff hFree hBuild⟩

------------------------------------------------------------
-- Roots in use
------------------------------------------------------------

/- Settings for a NATS server that name the root alone. -/
def below
    (root : String) : BrokerSettings where
  kind := .nats
  url := "nats://localhost:4222"
  root := root
  exchange := ""

/- A message with a given subtopic. -/
def reading
    (subtopic : String) : Message where
  channel := "c1"
  subtopic := subtopic
  publisher := ""
  protocol := ""
  payload := [0]
  created := 3

/- A client of a server that was told some commands. -/
def telling
    (root : String)
    (log : List Nats.Command) : Nats.NatsClient Listener Listener.Log :=
  .create root { Nats.Broker.create .healthy with log := log } .empty

/- What a server is told of a reading. -/
def told
    (subject subtopic : String) : Nats.Command :=
  .publish subject (reading subtopic).encode

/- A second reading is published below a root of two segments. -/
theorem reading_destination :
    ∃ subject,
      Topic.build "plant.north" "c1" "engine//*temp " = .ok subject ∧
        Topic.IsDestination subject := by
  have hConnects :
      (below "plant.north").Connects Listener.Log.empty Nats.transport
        (telling "plant.north" []) :=
    .nats .healthy rfl
  have hLater :
      Client.Later Nats.transport Listener.handlers
        (telling "plant.north" [])
        (telling "plant.north" [told "plant.north.c1" ""]) :=
    .publish "c1" (reading "") .now
  have hPublish :
      Client.publish Nats.transport "c1" (reading "engine//*temp ")
          (telling "plant.north" [told "plant.north.c1" ""]) =
        (.ok (),
          telling "plant.north"
            [told "plant.north.c1" "",
              told "plant.north.c1.engine.temp" "engine//*temp "]) :=
    rfl
  rcases hConnects.destination hLater hPublish with
    ⟨subject, _, hBuild, _, _, _, hDestination⟩
  exact ⟨subject, hBuild, hDestination.mpr (Or.inr (by decide))⟩

/-
  A root with an empty segment is let through.  The server is
  told to publish under a subject that has that segment too.
-/
theorem torn_root_accepted :
    (below "a..b").validate = .ok () ∧
      (below "a..b").Connects Listener.Log.empty Nats.transport
        (telling "a..b" []) ∧
      Client.publish Nats.transport "c1" (reading "")
          (telling "a..b" []) =
        (.ok (), telling "a..b" [told "a..b.c1" ""]) ∧
      ¬ Topic.IsDestination "a..b.c1" :=
  ⟨rfl, .nats .healthy rfl, rfl, by decide⟩

end BrokerSettings

end Courier
