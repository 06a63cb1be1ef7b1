import Courier.Bootstrap.Configuration
import Courier.Outbox.Fields

/-
  This file defines the events of the bootstrap service and
  the fields that they are recorded with.

  Key definitions include:
    * `Bootstrap.Happening`
    * `Bootstrap.Happening.operation`
    * `Bootstrap.Happening.encode`
    * `Bootstrap.Happening.event`
-/

namespace Courier.Bootstrap

------------------------------------------------------------
-- Operations
------------------------------------------------------------

namespace Operation

def configCreate : String := "config.create"

def configView : String := "config.view"

def configUpdate : String := "config.update"

def configList : String := "config.list"

def configRemove : String := "config.remove"

def certUpdate : String := "cert.update"

def thingUpdateConnections : String := "thing.update_connections"

def thingBootstrap : String := "thing.bootstrap"

def thingStateChange : String := "thing.state_change"

def thingDisconnect : String := "thing.disconnect"

def configHandlerRemove : String := "config.remove_handler"

def channelHandlerRemove : String := "channel.remove_handler"

def channelHandlerUpdate : String := "channel.update_handler"

end Operation

------------------------------------------------------------
-- Happenings
------------------------------------------------------------

/- What happens in the bootstrap service. -/
inductive Happening where
  /- A configuration was created, viewed or updated. -/
  | configuration (config : Configuration) (operation : String)
  /- The certificates of a thing were replaced. -/
  | certificates (thingKey clientCert clientKey caCert : String)
  /- The channels of a thing were replaced. -/
  | connections (thingId : String) (channels : List String)
  /- Configurations were listed. -/
  | listing (offset limit : UInt64) (filter : Filter)
  /- A configuration was removed. -/
  | removal (thingId : String)
  /- A thing fetched its configuration. -/
  | bootstrap (config : Configuration) (externalId : String)
  /- The state of a thing was changed. -/
  | stateChange (thingId : String) (state : State)
  /- A configuration or channel went away elsewhere. -/
  | handlerRemoval (id : String) (operation : String)
  /- A channel was changed elsewhere. -/
  | channelUpdate (channel : Channel)
  /- A thing was disconnected elsewhere. -/
  | disconnection (channelId thingId : String)

namespace Happening

/- The operation that a happening is recorded as. -/
def operation : Happening → String
  | configuration _ operation => operation
  | certificates .. => Operation.certUpdate
  | connections .. => Operation.thingUpdateConnections
  | listing .. => Operation.configList
  | removal _ => Operation.configRemove
  | bootstrap .. => Operation.thingBootstrap
  | stateChange .. => Operation.thingStateChange
  | handlerRemoval _ operation => operation
  | channelUpdate _ => Operation.channelHandlerUpdate
  | disconnection .. => Operation.thingDisconnect

------------------------------------------------------------
-- Fields
------------------------------------------------------------

/- Put the ids of channels, unless there are none. -/
def putChannels
    (channels : List Channel)
    (fields : Fields) : Fields :=
  fields.putUnless channels.isEmpty "channels"
    (Fields.commaJoined (channels.map (·.id)))

/- The fields that a happening is recorded with. -/
def encode : Happening → Fields
  | configuration config _ =>
      Dict.empty
        |> Fields.put "thing_id" config.thingId
        |> Fields.put "state" config.state.render
        |> Fields.putNonempty "owner" config.owner
        |> Fields.putNonempty "name" config.name
        |> Fields.putNonempty "external_id" config.externalId
        |> Fields.putNonempty "content" config.content
        |> putChannels config.channels
  | certificates thingKey clientCert clientKey caCert =>
      Dict.empty
        |> Fields.put "thing_key" thingKey
        |> Fields.put "client_cert" clientCert
        |> Fields.put "client_key" clientKey
        |> Fields.put "ca_cert" caCert
  | connections thingId channels =>
      Dict.empty
        |> Fields.put "thing_id" thingId
        |> Fields.put "channels" (Fields.commaJoined channels)
  | listing offset limit filter =>
      Dict.empty
        |> Fields.putNatural "offset" offset
        |> Fields.putNatural "limit" limit
        |> Fields.putUnless filter.fullMatch.isEmpty
            "full_match" (Fields.jsonOfTexts filter.fullMatch)
        |> Fields.putUnless filter.partialMatch.isEmpty
            "partial_match" (Fields.jsonOfTexts filter.partialMatch)
  | removal thingId =>
      Dict.empty
        |> Fields.put "thing_id" thingId
  | bootstrap config externalId =>
      Dict.empty
        |> Fields.put "external_id" externalId
        |> Fields.put "thing_id" config.thingId
        |> Fields.put "state" config.state.render
        |> putChannels config.channels
  | stateChange thingId state =>
      Dict.empty
        |> Fields.put "thing_id" thingId
        |> Fields.put "state" state.render
  | handlerRemoval id _ =>
      Dict.empty
        |> Fields.put "config_id" id
  | channelUpdate channel =>
      Dict.empty
        |> Fields.put "channel_id" channel.id
        |> Fields.putNonempty "name" channel.name
        |> Fields.putUnless channel.metadata.isEmpty
            "metadata" (Fields.jsonOfValues channel.metadata)
  | disconnection channelId thingId =>
      Dict.empty
        |> Fields.put "channel_id" channelId
        |> Fields.put "thing_id" thingId

/- The event that a happening is recorded as. -/
def event
    (h : Happening) : Event where
  operation := h.operation
  fields := h.encode

end Happening

end Courier.Bootstrap
