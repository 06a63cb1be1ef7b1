import Courier.Json.Codec

/-
  This file defines the configurations that things are
  bootstrapped with, the channels in them, and the pages in
  which they are listed.

  Key definitions include:
    * `Bootstrap.State`
    * `Bootstrap.Channel`
    * `Bootstrap.Configuration`
    * `Bootstrap.Filter`
    * `Bootstrap.ConfigurationPage`
-/

namespace Courier.Bootstrap

------------------------------------------------------------
-- States
------------------------------------------------------------

/- Whether a thing is provisioned. -/
inductive State where
  | inactive
  | active
  deriving DecidableEq, Repr

namespace State

/- A state as it is written in events. -/
def render : State → String
  | inactive => "0"
  | active => "1"

/- The name of a state. -/
def name : State → String
  | inactive => "Inactive"
  | active => "Active"

/- The states under their names. -/
def choices : List (String × State) :=
  [("Inactive", inactive), ("Active", active)]

/- States in JSON. -/
def codec : Json.Codec State :=
  .choice choices name

end State

------------------------------------------------------------
-- Channels
------------------------------------------------------------

/- A channel that a thing is connected to. -/
structure Channel where
  id : String
  name : String
  metadata : Dict Json.Value

namespace Channel

/- The channel without a name. -/
def empty : Channel where
  id := ""
  name := ""
  metadata := .empty

/- Channels in JSON. -/
def codec : Json.Codec Channel :=
  .record
    [ .of "id" .text (·.id)
        fun v c => { c with id := v }
    , .of "name" .text (·.name)
        fun v c => { c with name := v }
    , .of "metadata" .anyDict (·.metadata)
        fun v c => { c with metadata := v } ]
    false empty

end Channel

------------------------------------------------------------
-- Configurations
------------------------------------------------------------

/- What a thing is bootstrapped with. -/
structure Configuration where
  thingId : String
  thingKey : String
  owner : String
  name : String
  clientCert : String
  clientKey : String
  caCert : String
  channels : List Channel
  externalId : String
  externalKey : String
  content : String
  state : State

namespace Configuration

/- The configuration in which nothing is set. -/
def empty : Configuration where
  thingId := ""
  thingKey := ""
  owner := ""
  name := ""
  clientCert := ""
  clientKey := ""
  caCert := ""
  channels := []
  externalId := ""
  externalKey := ""
  content := ""
  state := .inactive

/- Configurations in JSON. -/
def codec : Json.Codec Configuration :=
  .record
    [ .of "thing_id" .text (·.thingId)
        fun v c => { c with thingId := v }
    , .of "thing_key" .text (·.thingKey)
        fun v c => { c with thingKey := v }
    , .of "owner" .text (·.owner)
        fun v c => { c with owner := v }
    , .of "name" .text (·.name)
        fun v c => { c with name := v }
    , .of "client_cert" .text (·.clientCert)
        fun v c => { c with clientCert := v }
    , .of "client_key" .text (·.clientKey)
        fun v c => { c with clientKey := v }
    , .of "ca_cert" .text (·.caCert)
        fun v c => { c with caCert := v }
    , .of "channels" (.list Channel.codec) (·.channels)
        fun v c => { c with channels := v }
    , .of "external_id" .text (·.externalId)
        fun v c => { c with externalId := v }
    , .of "external_key" .text (·.externalKey)
        fun v c => { c with externalKey := v }
    , .of "content" .text (·.content)
        fun v c => { c with content := v }
    , .of "state" State.codec (·.state)
        fun v c => { c with state := v } ]
    false empty

end Configuration

------------------------------------------------------------
-- Listing
------------------------------------------------------------

/- Which configurations are listed. -/
structure Filter where
  /- Fields that have to be equal. -/
  fullMatch : Dict String
  /- Fields that have to contain a text. -/
  partialMatch : Dict String
  deriving DecidableEq

namespace Filter

/- The filter that lets every configuration pass. -/
def empty : Filter where
  fullMatch := .empty
  partialMatch := .empty

/- Filters in JSON. -/
def codec : Json.Codec Filter :=
  .record
    [ .of "full_match" .texts (·.fullMatch)
        fun v f => { f with fullMatch := v }
    , .of "partial_match" .texts (·.partialMatch)
        fun v f => { f with partialMatch := v } ]
    false empty

end Filter

/- Some of the configurations that a filter lets pass. -/
structure ConfigurationPage where
  total : UInt64
  offset : UInt64
  limit : UInt64
  configs : List Configuration

namespace ConfigurationPage

/- The page without configurations. -/
def empty : ConfigurationPage where
  total := 0
  offset := 0
  limit := 0
  configs := []

/- Pages in JSON. -/
def codec : Json.Codec ConfigurationPage :=
  .record
    [ .of "total" .natural (·.total)
        fun v p => { p with total := v }
    , .of "offset" .natural (·.offset)
        fun v p => { p with offset := v }
    , .of "limit" .natural (·.limit)
        fun v p => { p with limit := v }
    , .of "configs" (.list Configuration.codec) (·.configs)
        fun v p => { p with configs := v } ]
    false empty

end ConfigurationPage

end Courier.Bootstrap
