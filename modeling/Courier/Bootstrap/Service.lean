import Courier.Bootstrap.Event
import Courier.Service.Recorder

/-
  This file defines the bootstrap service: its requests, their
  answers, its faults, and the event that each call is
  recorded as.

  Key definitions include:
    * `Bootstrap.Fault`
    * `Bootstrap.Request`
    * `Bootstrap.Request.Answer`
    * `Bootstrap.Request.happening`
    * `Bootstrap.recording`
-/

namespace Courier.Bootstrap

/- The stream that bootstrap events belong on. -/
def stream : String :=
  "iot.bootstrap"

------------------------------------------------------------
-- Faults
------------------------------------------------------------

/- What can be wrong with a call on the service. -/
inductive Fault where
  | notFound
  | authenticationFailed
  | conflict
  | malformedEntity (detail : String)
  /- The call was made, but its event was refused. -/
  | outbox (fault : OutboxFault)
  deriving DecidableEq, Repr

namespace Fault

/- The name of what is wrong, without its details. -/
def name : Fault → String
  | notFound => "NotFound"
  | authenticationFailed => "AuthenticationFailed"
  | conflict => "Conflict"
  | malformedEntity _ => "MalformedEntity"
  | outbox _ => "Outbox"

/- The text that reports a fault. -/
def message : Fault → String
  | notFound => "entity not found"
  | authenticationFailed => "authentication failed"
  | conflict => "entity already exists"
  | malformedEntity detail => "malformed entity: " ++ detail
  | outbox fault => fault.message

/- The text of the fault behind a fault, if there is one. -/
def cause? : Fault → Option String
  | outbox fault => fault.cause?
  | _ => none

end Fault

------------------------------------------------------------
-- Requests
------------------------------------------------------------

/- A call on the service. -/
inductive Request where
  /- Add a configuration owned by the user of the token. -/
  | add (token : String) (config : Configuration)
  | view (token id : String)
  /- Change the editable fields of a configuration. -/
  | update (token : String) (config : Configuration)
  /- Replace the certificates of the thing with a key. -/
  | updateCert (token thingKey clientCert clientKey caCert : String)
  /- Replace the channels of a configuration. -/
  | updateConnections
      (token id : String) (connections : List String)
  | list (token : String) (filter : Filter) (offset limit : UInt64)
  | remove (token id : String)
  /- Fetch the configuration of a thing by its credentials. -/
  | bootstrap (externalKey externalId : String) (secure : Bool)
  | changeState (token id : String) (state : State)
  /- React to the removal of a thing. -/
  | removeConfigHandler (id : String)
  /- React to the removal of a channel. -/
  | removeChannelHandler (id : String)
  /- React to a change of a channel. -/
  | updateChannelHandler (channel : Channel)
  /- React to the removal of a connection. -/
  | disconnectThingHandler (channelId thingId : String)

namespace Request

/- The type of the answer to a request. -/
@[reducible]
def Answer : Request → Type
  | add .. => Configuration
  | view .. => Configuration
  | update .. => Unit
  | updateCert .. => Configuration
  | updateConnections .. => Unit
  | list .. => ConfigurationPage
  | remove .. => Unit
  | bootstrap .. => Configuration
  | changeState .. => Unit
  | removeConfigHandler _ => Unit
  | removeChannelHandler _ => Unit
  | updateChannelHandler _ => Unit
  | disconnectThingHandler .. => Unit

------------------------------------------------------------
-- Recording
------------------------------------------------------------

/- What happened when a request was answered. -/
def happening :
    (request : Request) → request.Answer → Happening
  | add .., config =>
      .configuration config Operation.configCreate
  | view .., config =>
      .configuration config Operation.configView
  | update _ config, _ =>
      .configuration config Operation.configUpdate
  | updateCert _ thingKey clientCert clientKey caCert, _ =>
      .certificates thingKey clientCert clientKey caCert
  | updateConnections _ id connections, _ =>
      .connections id connections
  | list _ filter offset limit, _ =>
      .listing offset limit filter
  | remove _ id, _ =>
      .removal id
  | bootstrap _ externalId _, config =>
      .bootstrap config externalId
  | changeState _ id state, _ =>
      .stateChange id state
  | removeConfigHandler id, _ =>
      .handlerRemoval id Operation.configHandlerRemove
  | removeChannelHandler id, _ =>
      .handlerRemoval id Operation.channelHandlerRemove
  | updateChannelHandler channel, _ =>
      .channelUpdate channel
  | disconnectThingHandler channelId thingId, _ =>
      .disconnection channelId thingId

/- Only calls that change nothing go on without their event. -/
def policy : Request → EmitPolicy
  | view .. => .bestEffort
  | list .. => .bestEffort
  | _ => .required

end Request

/- How the calls of the service are recorded. -/
def recording : Recording Request Request.Answer Fault where
  event := fun request answer => (request.happening answer).event
  policy := Request.policy
  fault := .outbox

end Courier.Bootstrap
