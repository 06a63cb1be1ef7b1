import Courier.Json.Codec
import Courier.Settings.Environment
import Courier.Topic.Subject

/-
  This file defines the settings of a broker client: the kind
  of broker, where it is, the root of the topics, and the
  exchange that carries them on AMQP.

  Key definitions include:
    * `BrokerKind`
    * `BrokerKind.parse`
    * `BrokerSettings`
    * `BrokerSettings.validate`
    * `BrokerSettings.ofEnvironment`
    * `BrokerSettings.codec`
-/

namespace Courier

------------------------------------------------------------
-- Kinds of broker
------------------------------------------------------------

/- The brokers that a client can be connected to. -/
inductive BrokerKind where
  | memory
  | nats
  | amqp
  deriving DecidableEq, Repr

namespace BrokerKind

/- The name of a kind of broker. -/
def name : BrokerKind → String
  | memory => "memory"
  | nats => "nats"
  | amqp => "amqp"

/- The names that a kind of broker goes by in settings. -/
def ofName? : String → Option BrokerKind
  | "memory" => some memory
  | "inmemory" => some memory
  | "nats" => some nats
  | "amqp" => some amqp
  | "rabbitmq" => some amqp
  | _ => none

/- A text in lower case, as far as its letters are ASCII. -/
def lower
    (s : String) : String :=
  String.ofList (s.toList.map Char.toLower)

/- The kind of broker that a text names, in any case. -/
def parse
    (s : String) : Except Fault BrokerKind :=
  let name := lower (Text.trim s)
  match ofName? name with
  | some kind => .ok kind
  | none => .error (.config ("unknown broker kind: " ++ name))

/- The kinds under the names that they are written as. -/
def choices : List (String × BrokerKind) :=
  [("memory", memory), ("nats", nats), ("amqp", amqp)]

/- Kinds of broker in JSON. -/
def codec : Json.Codec BrokerKind :=
  Json.Codec.choice choices name

end BrokerKind

------------------------------------------------------------
-- Settings
------------------------------------------------------------

/- The settings of a broker client. -/
structure BrokerSettings where
  kind : BrokerKind
  /- Where the broker is; empty for a broker in memory. -/
  url : String
  /- The root of all topics. -/
  root : String
  /- The exchange that carries the topics on AMQP. -/
  exchange : String
  deriving DecidableEq, Repr

namespace BrokerSettings

/- The settings where nothing is set. -/
def default : BrokerSettings where
  kind := .memory
  url := ""
  root := Topic.channelsRoot
  exchange := "messages"

/- Whether a root holds a wildcard or a blank. -/
def hasReserved
    (root : String) : Bool :=
  root.toList.any fun c => Topic.isWildcard c || Text.isBlank c

/- Check that settings can be used. -/
def validate
    (s : BrokerSettings) : Except Fault Unit :=
  if s.kind ≠ .memory ∧ s.url.isEmpty then
    .error (.config (s.kind.name ++ " broker requires a URL"))
  else if hasReserved s.root then
    .error (.config
      ("topic prefix contains reserved characters: " ++ s.root))
  else if s.kind = .amqp ∧ s.exchange.isEmpty then
    .error (.config "AMQP exchange cannot be empty")
  else
    .ok ()

/- The kind of broker that the environment asks for. -/
def kindOfEnvironment
    (env : Environment) : Except Fault BrokerKind :=
  match env "RELAYBUS_BROKER" with
  | none => .ok default.kind
  | some raw => BrokerKind.parse raw

/- The settings that the environment asks for, checked. -/
def ofEnvironment
    (env : Environment) : Except Fault BrokerSettings := do
  let kind ← kindOfEnvironment env
  let settings : BrokerSettings :=
    { kind := kind
      url := env.text "RELAYBUS_BROKER_URL" default.url
      root := env.text "RELAYBUS_TOPIC_PREFIX" default.root
      exchange := env.text "RELAYBUS_AMQP_EXCHANGE" default.exchange }
  settings.validate
  return settings

/- Settings of broker clients in JSON; any field may be missing. -/
def codec : Json.Codec BrokerSettings :=
  .record
    [ .of "kind" BrokerKind.codec (·.kind)
        fun v s => { s with kind := v }
    , .of "url" .text (·.url)
        fun v s => { s with url := v }
    , .of "prefix" .text (·.root)
        fun v s => { s with root := v }
    , .of "exchange" .text (·.exchange)
        fun v s => { s with exchange := v } ]
    true default

end BrokerSettings

end Courier
