import Courier.Bootstrap.Service

/-
  This file defines how the requests of the bootstrap service
  and their answers are written in JSON.  A request is a list
  of the name of its method and its arguments in order.

  Key definitions include:
    * `Bootstrap.Request.method`
    * `Bootstrap.Request.toValue`
    * `Bootstrap.Request.answerValue`
-/

namespace Courier.Bootstrap.Request

open Json (Value)

/- The name of the method that a request calls. -/
def method : Request → String
  | add .. => "add"
  | view .. => "view"
  | update .. => "update"
  | updateCert .. => "update_cert"
  | updateConnections .. => "update_connections"
  | list .. => "list"
  | remove .. => "remove"
  | bootstrap .. => "bootstrap"
  | changeState .. => "change_state"
  | removeConfigHandler _ => "remove_config_handler"
  | removeChannelHandler _ => "remove_channel_handler"
  | updateChannelHandler _ => "update_channel_handler"
  | disconnectThingHandler .. => "disconnect_thing_handler"

/- The arguments of a request. -/
def arguments : Request → List Value
  | add token config =>
      [.text token, Configuration.codec.toValue config]
  | view token id =>
      [.text token, .text id]
  | update token config =>
      [.text token, Configuration.codec.toValue config]
  | updateCert token thingKey clientCert clientKey caCert =>
      [.text token, .text thingKey, .text clientCert, .text clientKey,
        .text caCert]
  | updateConnections token id connections =>
      [.text token, .text id, .texts connections]
  | list token filter offset limit =>
      [.text token, Filter.codec.toValue filter, .natural offset,
        .natural limit]
  | remove token id =>
      [.text token, .text id]
  | bootstrap externalKey externalId secure =>
      [.text externalKey, .text externalId, .bool secure]
  | changeState token id state =>
      [.text token, .text id, State.codec.toValue state]
  | removeConfigHandler id =>
      [.text id]
  | removeChannelHandler id =>
      [.text id]
  | updateChannelHandler channel =>
      [Channel.codec.toValue channel]
  | disconnectThingHandler channelId thingId =>
      [.text channelId, .text thingId]

/- A request in JSON. -/
def toValue
    (request : Request) : Value :=
  .list (.text request.method :: request.arguments)

/- The answer to a request in JSON. -/
def answerValue :
    (request : Request) → request.Answer → Value
  | add .., config => Configuration.codec.toValue config
  | view .., config => Configuration.codec.toValue config
  | updateCert .., config => Configuration.codec.toValue config
  | bootstrap .., config => Configuration.codec.toValue config
  | list .., page => ConfigurationPage.codec.toValue page
  | _, _ => .null

end Courier.Bootstrap.Request
