import Courier.Bootstrap.Configuration
import Courier.Message
import Courier.Outbox.Record
import Courier.Policy.Policy
import Courier.Proofs.Json.Records
import Courier.Settings.Broker
import Courier.Settings.Outbox

/-
  This file shows that everything that is kept as JSON reads
  back as it was written: messages, records, settings,
  policies, and configurations with what they are listed by.

  The metadata of a channel may be any values without real
  numbers.  A reader does not go deeper than the limit of
  nesting, so what holds metadata must not be nested deeper
  either, itself included.

  Key definitions include:
    * `Bootstrap.Channel.IsIntegral`
    * `Bootstrap.Configuration.IsIntegral`
    * `Bootstrap.ConfigurationPage.IsIntegral`

  Main statements:
    * `Message.codec_restores`, `Record.codec_restores`
    * `Bootstrap.ConfigurationPage.codec_restores`
    * `Policy.PolicyPage.codec_restores`
    * `Json.persisted_round_trips`
-/

namespace Courier

open Json (Codec)

------------------------------------------------------------
-- Messages and records
------------------------------------------------------------

/- A message reads back, with its payload one level deeper. -/
theorem Message.codec_restores
    (depth : Nat)
    (m : Message) :
    Message.codec.Restores (depth + 2) m := by
  apply Codec.record_restores (by decide)
  refine .of (Codec.text_restores _ m.channel) ?_
  refine .of (Codec.text_restores _ m.subtopic) ?_
  refine .of (Codec.text_restores _ m.publisher) ?_
  refine .of (Codec.text_restores _ m.protocol) ?_
  refine .of (Codec.list_restores fun o _ => Codec.octet_restores depth o) ?_
  refine .of (Codec.integer_restores _ m.created) ?_
  exact .nil m

/- A record reads back, with its fields one level deeper. -/
theorem Record.codec_restores
    (depth : Nat)
    (r : Record) :
    Record.codec.Restores (depth + 2) r := by
  apply Codec.record_restores (by decide)
  refine .of (Codec.text_restores _ r.stream) ?_
  refine .of (Codec.natural_restores _ r.maxLength) ?_
  refine .of (Codec.texts_restores depth r.fields) ?_
  exact .nil r

------------------------------------------------------------
-- Settings
------------------------------------------------------------

/- A kind of broker reads back from its name. -/
theorem BrokerKind.codec_restores
    (depth : Nat)
    (kind : BrokerKind) :
    BrokerKind.codec.Restores depth kind := by
  apply Codec.choice_restores
  cases kind <;> rfl

theorem BrokerSettings.codec_restores
    (depth : Nat)
    (s : BrokerSettings) :
    BrokerSettings.codec.Restores (depth + 1) s := by
  apply Codec.record_restores (by decide)
  refine .of (BrokerKind.codec_restores depth s.kind) ?_
  refine .of (Codec.text_restores depth s.url) ?_
  refine .of (Codec.text_restores depth s.root) ?_
  refine .of (Codec.text_restores depth s.exchange) ?_
  exact .nil s

theorem OutboxSettings.codec_restores
    (depth : Nat)
    (s : OutboxSettings) :
    OutboxSettings.codec.Restores (depth + 1) s := by
  apply Codec.record_restores (by decide)
  refine .of (Codec.text_restores depth s.stream) ?_
  refine .of (Codec.natural_restores depth s.streamLength) ?_
  refine .of (Codec.natural_restores depth s.probeTimeoutMs) ?_
  refine .of (Codec.natural_restores depth s.appendTimeoutMs) ?_
  refine .of (Codec.natural_restores depth s.flushIntervalSecs) ?_
  refine .of (Codec.natural_restores depth s.bufferCapacity) ?_
  exact .nil s

------------------------------------------------------------
-- Policies
------------------------------------------------------------

namespace Policy

/- A policy reads back, with its actions one level deeper. -/
theorem codec_restores
    (depth : Nat)
    (p : Policy) :
    Policy.codec.Restores (depth + 2) p := by
  apply Codec.record_restores (by decide)
  refine .of (Codec.text_restores _ p.ownerId) ?_
  refine .of (Codec.text_restores _ p.subject) ?_
  refine .of (Codec.text_restores _ p.object) ?_
  refine .of (Codec.list_restores fun s _ => Codec.text_restores depth s) ?_
  refine .of (Codec.natural_restores _ p.createdAt) ?_
  refine .of (Codec.natural_restores _ p.updatedAt) ?_
  exact .nil p

theorem AccessRequest.codec_restores
    (depth : Nat)
    (r : AccessRequest) :
    AccessRequest.codec.Restores (depth + 1) r := by
  apply Codec.record_restores (by decide)
  refine .of (Codec.text_restores depth r.subject) ?_
  refine .of (Codec.text_restores depth r.object) ?_
  refine .of (Codec.text_restores depth r.action) ?_
  exact .nil r

theorem Page.codec_restores
    (depth : Nat)
    (p : Page) :
    Page.codec.Restores (depth + 1) p := by
  apply Codec.record_restores (by decide)
  refine .of (Codec.natural_restores depth p.total) ?_
  refine .of (Codec.natural_restores depth p.offset) ?_
  refine .of (Codec.natural_restores depth p.limit) ?_
  refine .of (Codec.text_restores depth p.subject) ?_
  refine .of (Codec.text_restores depth p.object) ?_
  refine .of (Codec.text_restores depth p.action) ?_
  exact .nil p

/- A page reads back, with its policies two levels deeper. -/
theorem PolicyPage.codec_restores
    (depth : Nat)
    (p : PolicyPage) :
    PolicyPage.codec.Restores (depth + 4) p := by
  apply Codec.record_restores (by decide)
  refine .of (Page.codec_restores _ p.page) ?_
  refine .of (Codec.list_restores fun q _ => Policy.codec_restores depth q) ?_
  exact .nil p

end Policy

------------------------------------------------------------
-- Configurations
------------------------------------------------------------

namespace Bootstrap

/- A state reads back from its name. -/
theorem State.codec_restores
    (depth : Nat)
    (state : State) :
    State.codec.Restores depth state := by
  apply Codec.choice_restores
  cases state <;> rfl

theorem Filter.codec_restores
    (depth : Nat)
    (f : Filter) :
    Filter.codec.Restores (depth + 2) f := by
  apply Codec.record_restores (by decide)
  refine .of (Codec.texts_restores depth f.fullMatch) ?_
  refine .of (Codec.texts_restores depth f.partialMatch) ?_
  exact .nil f

/- The numbers in the metadata of a channel are integers. -/
def Channel.IsIntegral
    (c : Channel) : Prop :=
  ∀ entry ∈ c.metadata.entries, entry.2.IsIntegral

/- So they are in all channels of a configuration. -/
def Configuration.IsIntegral
    (c : Configuration) : Prop :=
  ∀ channel ∈ c.channels, channel.IsIntegral

/- So they are in all configurations of a page. -/
def ConfigurationPage.IsIntegral
    (p : ConfigurationPage) : Prop :=
  ∀ config ∈ p.configs, config.IsIntegral

/- A channel is nested two levels deeper than its metadata. -/
theorem Channel.depth_le_iff
    {c : Channel}
    {depth : Nat} :
    (Channel.codec.toValue c).depth ≤ depth + 2 ↔
      ∀ entry ∈ c.metadata.entries, entry.2.depth ≤ depth := by
  rw [← Json.fieldsDepth_le_iff]
  simp [Channel.codec, Codec.record, Codec.Field.of, Codec.text,
    Codec.anyDict, Json.Value.depth, Json.fieldsDepth]

/- A channel reads back if its metadata is not nested too deep. -/
theorem Channel.codec_restores
    {c : Channel}
    (hIntegral : c.IsIntegral)
    {depth : Nat}
    (hDepth : (Channel.codec.toValue c).depth ≤ depth + 2) :
    Channel.codec.Restores (depth + 2) c := by
  apply Codec.record_restores (by decide)
  refine .of (Codec.text_restores _ c.id) ?_
  refine .of (Codec.text_restores _ c.name) ?_
  refine .of (Codec.anyDict_restores hIntegral (depth_le_iff.mp hDepth)) ?_
  exact .nil c

/- A configuration is nested two levels deeper than its channels. -/
theorem Configuration.depth_le_iff
    {c : Configuration}
    {depth : Nat} :
    (Configuration.codec.toValue c).depth ≤ depth + 2 ↔
      ∀ channel ∈ c.channels,
        (Channel.codec.toValue channel).depth ≤ depth := by
  have hItems :
      Json.itemsDepth (c.channels.map Channel.codec.toValue) ≤ depth ↔
        ∀ channel ∈ c.channels,
          (Channel.codec.toValue channel).depth ≤ depth := by
    rw [Json.itemsDepth_le_iff, List.forall_mem_map]
  rw [← hItems]
  simp [Configuration.codec, Codec.record, Codec.Field.of, Codec.text,
    Codec.list, State.codec, Codec.choice, Json.Value.depth,
    Json.fieldsDepth]

/- A configuration reads back if its channels are not nested too deep. -/
theorem Configuration.codec_restores
    {c : Configuration}
    (hIntegral : c.IsIntegral)
    {depth : Nat}
    (hDepth : (Configuration.codec.toValue c).depth ≤ depth + 4) :
    Configuration.codec.Restores (depth + 4) c := by
  have hChannels :
      ∀ channel ∈ c.channels, Channel.codec.Restores (depth + 2) channel :=
    fun channel hChannel =>
      Channel.codec_restores (hIntegral channel hChannel)
        (depth_le_iff.mp hDepth channel hChannel)
  apply Codec.record_restores (by decide)
  refine .of (Codec.text_restores _ c.thingId) ?_
  refine .of (Codec.text_restores _ c.thingKey) ?_
  refine .of (Codec.text_restores _ c.owner) ?_
  refine .of (Codec.text_restores _ c.name) ?_
  refine .of (Codec.text_restores _ c.clientCert) ?_
  refine .of (Codec.text_restores _ c.clientKey) ?_
  refine .of (Codec.text_restores _ c.caCert) ?_
  refine .of (Codec.list_restores hChannels) ?_
  refine .of (Codec.text_restores _ c.externalId) ?_
  refine .of (Codec.text_restores _ c.externalKey) ?_
  refine .of (Codec.text_restores _ c.content) ?_
  refine .of (State.codec_restores _ c.state) ?_
  exact .nil c

/- A page is nested two levels deeper than its configurations. -/
theorem ConfigurationPage.depth_le_iff
    {p : ConfigurationPage}
    {depth : Nat} :
    (ConfigurationPage.codec.toValue p).depth ≤ depth + 2 ↔
      ∀ config ∈ p.configs,
        (Configuration.codec.toValue config).depth ≤ depth := by
  have hItems :
      Json.itemsDepth (p.configs.map Configuration.codec.toValue) ≤ depth ↔
        ∀ config ∈ p.configs,
          (Configuration.codec.toValue config).depth ≤ depth := by
    rw [Json.itemsDepth_le_iff, List.forall_mem_map]
  rw [← hItems]
  simp [ConfigurationPage.codec, Codec.record, Codec.Field.of,
    Codec.natural, Json.Value.natural, Codec.list, Json.Value.depth,
    Json.fieldsDepth]

/- A page reads back if its configurations are not nested too deep. -/
theorem ConfigurationPage.codec_restores
    {p : ConfigurationPage}
    (hIntegral : p.IsIntegral)
    {depth : Nat}
    (hDepth : (ConfigurationPage.codec.toValue p).depth ≤ depth + 6) :
    ConfigurationPage.codec.Restores (depth + 6) p := by
  have hConfigs :
      ∀ config ∈ p.configs,
        Configuration.codec.Restores (depth + 4) config :=
    fun config hConfig =>
      Configuration.codec_restores (hIntegral config hConfig)
        (depth_le_iff.mp hDepth config hConfig)
  apply Codec.record_restores (by decide)
  refine .of (Codec.natural_restores _ p.total) ?_
  refine .of (Codec.natural_restores _ p.offset) ?_
  refine .of (Codec.natural_restores _ p.limit) ?_
  refine .of (Codec.list_restores hConfigs) ?_
  exact .nil p

end Bootstrap

------------------------------------------------------------
-- Round trips
------------------------------------------------------------

/-
  Whatever is kept as JSON reads back as it was written, and is
  then written as the same text.  Where there is metadata, its
  numbers have to be integers, and the whole may be nested as
  deep as a reader goes.
-/
theorem Json.persisted_round_trips :
    (∀ m, Message.codec.RoundTrips m) ∧
    (∀ r, Record.codec.RoundTrips r) ∧
    (∀ s, BrokerSettings.codec.RoundTrips s) ∧
    (∀ s, OutboxSettings.codec.RoundTrips s) ∧
    (∀ c : Bootstrap.Configuration,
      c.IsIntegral →
      (Bootstrap.Configuration.codec.toValue c).depth ≤ nestingLimit →
        Bootstrap.Configuration.codec.RoundTrips c) ∧
    (∀ p : Bootstrap.ConfigurationPage,
      p.IsIntegral →
      (Bootstrap.ConfigurationPage.codec.toValue p).depth ≤ nestingLimit →
        Bootstrap.ConfigurationPage.codec.RoundTrips p) ∧
    (∀ f, Bootstrap.Filter.codec.RoundTrips f) ∧
    (∀ c : Bootstrap.Channel,
      c.IsIntegral →
      (Bootstrap.Channel.codec.toValue c).depth ≤ nestingLimit →
        Bootstrap.Channel.codec.RoundTrips c) ∧
    (∀ p, Policy.codec.RoundTrips p) ∧
    (∀ p, Policy.PolicyPage.codec.RoundTrips p) ∧
    (∀ p, Policy.Page.codec.RoundTrips p) ∧
    (∀ r, Policy.AccessRequest.codec.RoundTrips r) := by
  refine ⟨?_, ?_, ?_, ?_, ?_, ?_, ?_, ?_, ?_, ?_, ?_, ?_⟩
  · exact fun m => (Message.codec_restores 125 m).roundTrips
  · exact fun r => (Record.codec_restores 125 r).roundTrips
  · exact fun s => (BrokerSettings.codec_restores 126 s).roundTrips
  · exact fun s => (OutboxSettings.codec_restores 126 s).roundTrips
  · intro c hIntegral hDepth
    have hRestores : Bootstrap.Configuration.codec.Restores (123 + 4) c :=
      Bootstrap.Configuration.codec_restores hIntegral hDepth
    exact hRestores.roundTrips
  · intro p hIntegral hDepth
    have hRestores : Bootstrap.ConfigurationPage.codec.Restores (121 + 6) p :=
      Bootstrap.ConfigurationPage.codec_restores hIntegral hDepth
    exact hRestores.roundTrips
  · exact fun f => (Bootstrap.Filter.codec_restores 125 f).roundTrips
  · intro c hIntegral hDepth
    have hRestores : Bootstrap.Channel.codec.Restores (125 + 2) c :=
      Bootstrap.Channel.codec_restores hIntegral hDepth
    exact hRestores.roundTrips
  · exact fun p => (Policy.codec_restores 125 p).roundTrips
  · exact fun p => (Policy.PolicyPage.codec_restores 123 p).roundTrips
  · exact fun p => (Policy.Page.codec_restores 126 p).roundTrips
  · exact fun r => (Policy.AccessRequest.codec_restores 126 r).roundTrips

namespace Bootstrap

/-
  A channel with nested metadata, the least and the greatest
  integer among it.
-/
def calibrated : Channel where
  id := "c1"
  name := "lab\n\"é\""
  metadata :=
    { entries :=
        [ ("bounds", .list
            [ .number (.negative Int64.minValue)
            , .number (.natural 18446744073709551615) ])
        , ("site", .object
            [("\x1f", .null), ("\\", .list [.bool false, .object []])]) ]
      sorted := by
        unfold Entries.Sorted
        decide }

/- All numbers in its metadata are integers. -/
theorem isIntegral_calibrated :
    calibrated.IsIntegral := by
  refine List.forall_mem_cons.mpr
    ⟨.list ?_, List.forall_mem_singleton.mpr (.object ?_ ?_)⟩
  · exact List.forall_mem_cons.mpr
      ⟨.number (by decide : Int64.minValue < 0),
        List.forall_mem_singleton.mpr (.number trivial)⟩
  · unfold Entries.Sorted
    decide
  · refine List.forall_mem_cons.mpr
      ⟨.null, List.forall_mem_singleton.mpr (.list ?_)⟩
    exact List.forall_mem_cons.mpr
      ⟨.bool false,
        List.forall_mem_singleton.mpr
          (.object .nil fun _ hNone => absurd hNone List.not_mem_nil)⟩

/- A thing that is connected to the channel. -/
def connected : Configuration :=
  { Configuration.empty with channels := [calibrated] }

/- The page that lists it. -/
def connections : ConfigurationPage :=
  { ConfigurationPage.empty with total := 1, configs := [connected] }

end Bootstrap

/- The channel, the thing and the page read back as they were written. -/
theorem Json.connections_round_trip :
    Bootstrap.calibrated.IsIntegral ∧
      (Bootstrap.Channel.codec.toValue Bootstrap.calibrated).depth = 5 ∧
      Bootstrap.Channel.codec.RoundTrips Bootstrap.calibrated ∧
      Bootstrap.connected.IsIntegral ∧
      (Bootstrap.Configuration.codec.toValue Bootstrap.connected).depth =
        7 ∧
      Bootstrap.Configuration.codec.RoundTrips Bootstrap.connected ∧
      Bootstrap.connections.IsIntegral ∧
      (Bootstrap.ConfigurationPage.codec.toValue
        Bootstrap.connections).depth = 9 ∧
      Bootstrap.ConfigurationPage.codec.RoundTrips
        Bootstrap.connections := by
  rcases persisted_round_trips with
    ⟨_, _, _, _, hConfigurations, hPages, _, hChannels, _⟩
  have hChannel := Bootstrap.isIntegral_calibrated
  have hThing : Bootstrap.connected.IsIntegral :=
    List.forall_mem_singleton.mpr hChannel
  have hPage : Bootstrap.connections.IsIntegral :=
    List.forall_mem_singleton.mpr hThing
  exact ⟨hChannel, by decide, hChannels _ hChannel (by decide),
    hThing, by decide, hConfigurations _ hThing (by decide),
    hPage, by decide, hPages _ hPage (by decide)⟩

end Courier
