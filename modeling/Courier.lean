import Courier.Amqp.BindingKey
import Courier.Amqp.Broker
import Courier.Bootstrap.Call
import Courier.Bootstrap.Configuration
import Courier.Bootstrap.Event
import Courier.Bootstrap.Service
import Courier.Decimal.Binary
import Courier.Decimal.Shortest
import Courier.Dict
import Courier.Duration
import Courier.Fault
import Courier.Instant
import Courier.Json.Codec
import Courier.Json.Decoder
import Courier.Json.Numeral
import Courier.Json.Printer
import Courier.Json.Reader
import Courier.Json.Scanner
import Courier.Json.Value
import Courier.Message
import Courier.Nats.Broker
import Courier.Nats.Pattern
import Courier.Outbox.BrokerStore
import Courier.Outbox.Buffer
import Courier.Outbox.Fault
import Courier.Outbox.Fields
import Courier.Outbox.Flushing
import Courier.Outbox.MemoryStore
import Courier.Outbox.Outbox
import Courier.Outbox.Publishing
import Courier.Outbox.Record
import Courier.Outbox.ScriptedStore
import Courier.Outbox.Store
import Courier.Outbox.Worker
import Courier.Policy.Call
import Courier.Policy.Event
import Courier.Policy.Policy
import Courier.Policy.Service
import Courier.Proofs.Amqp.Consumers
import Courier.Proofs.Amqp.Independence
import Courier.Proofs.Amqp.Lanes
import Courier.Proofs.Amqp.Resubscribing
import Courier.Proofs.Amqp.Sessions
import Courier.Proofs.Amqp.Tidiness
import Courier.Proofs.Json.Numbers
import Courier.Proofs.Json.Persistence
import Courier.Proofs.Json.Records
import Courier.Proofs.Json.Texts
import Courier.Proofs.Json.Values
import Courier.Proofs.Outbox.BrokerStore
import Courier.Proofs.Outbox.Buffer
import Courier.Proofs.Outbox.Conservation
import Courier.Proofs.Outbox.Ledger
import Courier.Proofs.Outbox.Likeness
import Courier.Proofs.Outbox.MemoryStore
import Courier.Proofs.Outbox.Overlap
import Courier.Proofs.Outbox.Overtaking
import Courier.Proofs.Outbox.Passes
import Courier.Proofs.Outbox.Publishing
import Courier.Proofs.Outbox.Replay
import Courier.Proofs.Outbox.Retention
import Courier.Proofs.Outbox.Traffic
import Courier.Proofs.Outbox.Upkeep
import Courier.Proofs.Outbox.Worklog
import Courier.Proofs.Pool
import Courier.Proofs.Redis.Replies
import Courier.Proofs.Registration.Bindings
import Courier.Proofs.Registration.Cancellation
import Courier.Proofs.Registration.Departures
import Courier.Proofs.Registration.Dues
import Courier.Proofs.Registration.Handlers
import Courier.Proofs.Registration.Origins
import Courier.Proofs.Registration.Reference
import Courier.Proofs.Registration.Refinement
import Courier.Proofs.Registration.Sightings
import Courier.Proofs.Registration.Stages
import Courier.Proofs.Registration.Table
import Courier.Proofs.Registration.Traffic
import Courier.Proofs.Service.Encodings
import Courier.Proofs.Service.Minutes
import Courier.Proofs.Service.Plan
import Courier.Proofs.Service.Records
import Courier.Proofs.Service.Secrecy
import Courier.Proofs.Service.Transparency
import Courier.Proofs.Topic.Canonical
import Courier.Proofs.Topic.Isolation
import Courier.Proofs.Topic.Normal
import Courier.Proofs.Topic.Parsing
import Courier.Proofs.Topic.Routing
import Courier.Proofs.Topic.Slicing
import Courier.Proofs.Topic.Subjects
import Courier.Proofs.Topic.Wildcards
import Courier.Proofs.Topic.Words
import Courier.Proofs.Transport.Advance
import Courier.Proofs.Transport.Arguments
import Courier.Proofs.Transport.Bindings
import Courier.Proofs.Transport.Calls
import Courier.Proofs.Transport.Closing
import Courier.Proofs.Transport.Conversation
import Courier.Proofs.Transport.Delivery
import Courier.Proofs.Transport.Destinations
import Courier.Proofs.Transport.Draining
import Courier.Proofs.Transport.Lawful
import Courier.Proofs.Transport.LocalLine
import Courier.Proofs.Transport.Matching
import Courier.Proofs.Transport.NatsFeeds
import Courier.Proofs.Transport.NatsLine
import Courier.Proofs.Transport.NatsOrder
import Courier.Proofs.Transport.NatsSession
import Courier.Proofs.Transport.Queue
import Courier.Proofs.Transport.Registrations
import Courier.Proofs.Transport.Rounds
import Courier.Proofs.Transport.Session
import Courier.Proofs.Transport.Simulation
import Courier.Proofs.Transport.Steadiness
import Courier.Proofs.Transport.Traffic
import Courier.Proofs.Wire.Delimiting
import Courier.Proofs.Wire.Form
import Courier.Proofs.Wire.Packing
import Courier.Proofs.Wire.RoundTrip
import Courier.Redis.Address
import Courier.Redis.Connection
import Courier.Redis.Host
import Courier.Redis.Path
import Courier.Redis.ScriptedServer
import Courier.Redis.Store
import Courier.Registration.Call
import Courier.Registration.Key
import Courier.Registration.Run
import Courier.Registration.Script
import Courier.Registration.Table
import Courier.Service.Recorder
import Courier.Service.Scripted
import Courier.Settings.Broker
import Courier.Settings.Environment
import Courier.Settings.Outbox
import Courier.Text.Blank
import Courier.Text.Hexadecimal
import Courier.Text.Numeral
import Courier.Text.Octets
import Courier.Text.Percent
import Courier.Topic.Pattern
import Courier.Topic.Segments
import Courier.Topic.Subject
import Courier.Transport.Client
import Courier.Transport.Connect
import Courier.Transport.Handler
import Courier.Transport.LocalBroker
import Courier.Transport.Publication
import Courier.Wire.Block
import Courier.Wire.Frame
import Courier.Wire.Integer
import Courier.Wire.Length
import Courier.Wire.Reader
