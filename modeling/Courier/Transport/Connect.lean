import Courier.Settings.Broker
import Courier.Transport.LocalBroker

/-
  This file defines how a client is connected as its settings
  ask, where no other transport than the one in memory is
  built in.

  Key definitions include:
    * `LocalClient.connect`
-/

namespace Courier

namespace LocalClient

variable {H ω : Type}

/- The client of a broker in memory that keeps no messages. -/
def create
    (root : String)
    (recording : Bool)
    (world : ω) : LocalClient H ω :=
  Client.create root (.create recording) world

/- The client that settings ask for. -/
def connect
    (settings : BrokerSettings)
    (world : ω) : Except Fault (LocalClient H ω) := do
  settings.validate
  match settings.kind with
  | .memory => return create settings.root false world
  | .nats =>
      .error (.config "NATS support requires the `nats` feature")
  | .amqp =>
      .error (.config "AMQP support requires the `amqp` feature")

end LocalClient

end Courier
