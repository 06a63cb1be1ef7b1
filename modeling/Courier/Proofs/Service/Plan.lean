import Courier.Bootstrap.Service
import Courier.Policy.Service

/-
  This file says what the recorders of both services are to
  tell of a call that was answered: the tag of its operation,
  and a field for each part of the call or of its answer that
  the operation is about.

  The plan of a service is a table for each request, written
  down independently of the events that the service makes.
  An event is recorded as planned if it has the fields of the
  table, each once, and none of its own for its operation or
  its time.  What is then read from its record under any name
  is what the plan says.

  Key definitions include:
    * `Plan`
    * `Bootstrap.plan`, `Policy.plan`
    * `Fields.tabled`
    * `Bootstrap.Happening.table`, `Policy.Happening.table`
    * `Recording.Follows`
    * `Record.Tells`

  Main statements:
    * `Fields.get?_tabled`
    * `Recording.Follows.tells`
    * `Bootstrap.follows_plan`, `Policy.follows_plan`
-/

namespace Courier

------------------------------------------------------------
-- Plans
------------------------------------------------------------

/- The fields to be recorded; those without a value are left out. -/
abbrev FieldTable :=
  List (String × Option String)

/- What the records of a service are to tell. -/
structure Plan
    (Request : Type)
    (Answer : Request → Type) where
  /- The tag of the operation that a request asks for. -/
  tag : Request → String
  /- What is told of a request and its answer. -/
  fields : (request : Request) → Answer request → FieldTable

namespace FieldTable

/- The names in a table. -/
def names
    (table : FieldTable) : List String :=
  table.map (·.1)

/- The value under a name in a table. -/
def value?
    (table : FieldTable)
    (name : String) : Option String :=
  (table.lookup name).join

/- A value that is left out under a condition. -/
def leftOutIf
    (absent : Bool)
    (value : String) : Option String :=
  if absent then none else some value

/- A number that is never left out. -/
def natural
    (n : UInt64) : Option String :=
  some (Nat.repr n.toNat)

/- A text that is left out if it is empty. -/
def nonempty
    (text : String) : Option String :=
  leftOutIf text.isEmpty text

end FieldTable

open FieldTable

namespace Bootstrap

/- The ids of channels, which are left out if there are none. -/
def channelIds
    (channels : List Channel) : Option String :=
  leftOutIf channels.isEmpty (",".intercalate (channels.map (·.id)))

/- What is told of a configuration. -/
def configurationFields
    (config : Configuration) : FieldTable :=
  [ ("thing_id", some config.thingId)
  , ("state", some config.state.render)
  , ("owner", nonempty config.owner)
  , ("name", nonempty config.name)
  , ("external_id", nonempty config.externalId)
  , ("content", nonempty config.content)
  , ("channels", channelIds config.channels) ]

/- What the records of the bootstrap service are to tell. -/
def plan : Plan Request Request.Answer where
  tag
    | .add .. => "config.create"
    | .view .. => "config.view"
    | .update .. => "config.update"
    | .updateCert .. => "cert.update"
    | .updateConnections .. => "thing.update_connections"
    | .list .. => "config.list"
    | .remove .. => "config.remove"
    | .bootstrap .. => "thing.bootstrap"
    | .changeState .. => "thing.state_change"
    | .removeConfigHandler _ => "config.remove_handler"
    | .removeChannelHandler _ => "channel.remove_handler"
    | .updateChannelHandler _ => "channel.update_handler"
    | .disconnectThingHandler .. => "thing.disconnect"
  fields
    | .add .., saved => configurationFields saved
    | .view .., viewed => configurationFields viewed
    | .update _ config, _ => configurationFields config
    | .updateCert _ thingKey clientCert clientKey caCert, _ =>
        [ ("thing_key", some thingKey)
        , ("client_cert", some clientCert)
        , ("client_key", some clientKey)
        , ("ca_cert", some caCert) ]
    | .updateConnections _ id connections, _ =>
        [ ("thing_id", some id)
        , ("channels", some (",".intercalate connections)) ]
    | .list _ filter offset limit, _ =>
        [ ("offset", some (Nat.repr offset.toNat))
        , ("limit", some (Nat.repr limit.toNat))
        , ("full_match",
            leftOutIf filter.fullMatch.isEmpty
              (Fields.jsonOfTexts filter.fullMatch))
        , ("partial_match",
            leftOutIf filter.partialMatch.isEmpty
              (Fields.jsonOfTexts filter.partialMatch)) ]
    | .remove _ id, _ =>
        [ ("thing_id", some id) ]
    | .bootstrap _ externalId _, fetched =>
        [ ("external_id", some externalId)
        , ("thing_id", some fetched.thingId)
        , ("state", some fetched.state.render)
        , ("channels", channelIds fetched.channels) ]
    | .changeState _ id state, _ =>
        [ ("thing_id", some id)
        , ("state", some state.render) ]
    | .removeConfigHandler id, _ =>
        [ ("config_id", some id) ]
    | .removeChannelHandler id, _ =>
        [ ("config_id", some id) ]
    | .updateChannelHandler channel, _ =>
        [ ("channel_id", some channel.id)
        , ("name", nonempty channel.name)
        , ("metadata",
            leftOutIf channel.metadata.isEmpty
              (Fields.jsonOfValues channel.metadata)) ]
    | .disconnectThingHandler channelId thingId, _ =>
        [ ("channel_id", some channelId)
        , ("thing_id", some thingId) ]

end Bootstrap

namespace Policy

/- A number that is left out if it is zero. -/
def positive
    (n : UInt64) : Option String :=
  leftOutIf (n == 0) (Nat.repr n.toNat)

/- What is told of a policy. -/
def policyFields
    (policy : Policy) : FieldTable :=
  [ ("owner_id", nonempty policy.ownerId)
  , ("subject", nonempty policy.subject)
  , ("object", nonempty policy.object)
  , ("actions",
      leftOutIf policy.actions.isEmpty (",".intercalate policy.actions))
  , ("created_at", positive policy.createdAt)
  , ("updated_at", positive policy.updatedAt) ]

/- What the records of the policy service are to tell. -/
def plan : Plan Request Request.Answer where
  tag
    | .authorize .. => "policy.authorize"
    | .addPolicy .. => "policy.add"
    | .updatePolicy .. => "policy.update"
    | .listPolicies .. => "policy.list"
    | .deletePolicy .. => "policy.delete"
  fields
    | .authorize request entity, _ =>
        [ ("subject", nonempty request.subject)
        , ("object", nonempty request.object)
        , ("action", nonempty request.action)
        , ("entity_type", nonempty entity) ]
    | .addPolicy .., added => policyFields added
    | .updatePolicy .., updated => policyFields updated
    | .listPolicies _ page, _ =>
        [ ("offset", some (Nat.repr page.offset.toNat))
        , ("limit", some (Nat.repr page.limit.toNat))
        , ("subject", nonempty page.subject)
        , ("object", nonempty page.object)
        , ("action", nonempty page.action) ]
    | .deletePolicy _ policy, _ => policyFields policy

end Policy

------------------------------------------------------------
-- Fields of a table
------------------------------------------------------------

/- An empty dictionary has no values. -/
@[simp]
theorem Dict.get?_empty
    {α : Type}
    (key : String) :
    (Dict.empty : Dict α).get? key = none :=
  rfl

/- A key that has a value keeps it. -/
theorem Dict.get?_insertNew
    {α : Type}
    (d : Dict α)
    (key other : String)
    (value : α) :
    (d.insertNew key value).get? other =
      if key = other then some ((d.get? other).getD value)
      else d.get? other := by
  rw [insertNew, contains]
  by_cases hKey : key = other
  · subst hKey
    cases hValue : d.get? key with
    | none => simp [get?_insert]
    | some old => simp [hValue]
  · cases hValue : d.get? key with
    | none => simp [get?_insert, hKey]
    | some old => simp [hKey]

namespace FieldTable

/- The first entry of a table comes before the others. -/
theorem value?_cons
    (entry : String × Option String)
    (rest : FieldTable)
    (name : String) :
    value? (entry :: rest) name =
      if entry.1 = name then entry.2 else rest.value? name := by
  rcases entry with ⟨key, value⟩
  by_cases hName : key = name
  · simp [value?, hName]
  · have hOther : (name == key) = false :=
      beq_false_of_ne (Ne.symm hName)
    simp [value?, List.lookup_cons, hOther, hName]

/- A name that is not in a table has no value. -/
theorem value?_of_not_mem
    {table : FieldTable}
    {name : String}
    (hNone : name ∉ table.names) :
    table.value? name = none := by
  induction table with
  | nil => rfl
  | cons entry rest ih =>
      rw [names, List.map_cons, List.mem_cons, not_or] at hNone
      rw [value?_cons, if_neg (Ne.symm hNone.1), ih hNone.2]

end FieldTable

namespace Fields

/- Put a field that may have no value. -/
def putSome
    (fields : Fields)
    (name : String) : Option String → Fields
  | none => fields
  | some value => fields.put name value

/- The fields of a table. -/
def tabled
    (table : FieldTable) : Fields :=
  table.foldl (fun fields entry => fields.putSome entry.1 entry.2) .empty

/- What is read after a field was put that may have no value. -/
theorem get?_putSome
    (fields : Fields)
    (name other : String)
    (value? : Option String) :
    (fields.putSome name value?).get? other =
      if name = other then value?.or (fields.get? other)
      else fields.get? other := by
  cases value? with
  | none => simp [putSome]
  | some value => simp [putSome, put, Dict.get?_insert]

/- What is read after new fields were put is what their table says. -/
theorem get?_foldl_putSome
    (table : FieldTable)
    (hOnce : table.names.Nodup)
    (fields : Fields)
    (hNew : ∀ name ∈ table.names, fields.get? name = none)
    (name : String) :
    (table.foldl (fun fields entry => fields.putSome entry.1 entry.2)
        fields).get? name =
      (table.value? name).or (fields.get? name) := by
  induction table generalizing fields with
  | nil => rfl
  | cons entry rest ih =>
      rcases List.nodup_cons.mp hOnce with ⟨hFirst, hRest⟩
      have hStillNew :
          ∀ other ∈ names rest,
            (fields.putSome entry.1 entry.2).get? other = none := by
        intro other hOther
        have hDifferent : entry.1 ≠ other := by
          rintro rfl
          exact hFirst hOther
        rw [get?_putSome, if_neg hDifferent]
        exact hNew other (List.mem_cons_of_mem _ hOther)
      rw [List.foldl_cons, ih hRest _ hStillNew, value?_cons,
        get?_putSome]
      by_cases hName : entry.1 = name
      · -- No later entry has the name, so what was put first stays.
        subst hName
        rw [value?_of_not_mem hFirst]
        simp
      · rw [if_neg hName, if_neg hName]

/- What is read from the fields of a table is what it says. -/
theorem get?_tabled
    (table : FieldTable)
    (hOnce : table.names.Nodup)
    (name : String) :
    (tabled table).get? name = table.value? name := by
  rw [tabled, get?_foldl_putSome table hOnce _ (fun _ _ => rfl),
    Dict.get?_empty, Option.or_none]

/- To put a field is to put one that has a value. -/
theorem put_eq_putSome
    (fields : Fields)
    (name value : String) :
    fields.put name value = fields.putSome name (some value) :=
  rfl

/- To put a field unless something holds is to leave it out then. -/
theorem putUnless_eq_putSome
    (fields : Fields)
    (absent : Bool)
    (name value : String) :
    fields.putUnless absent name value =
      fields.putSome name (leftOutIf absent value) := by
  cases absent with
  | _ => rfl

/- Texts are joined by commas. -/
theorem commaJoined_eq_intercalate
    (texts : List String) :
    commaJoined texts = ",".intercalate texts := by
  induction texts with
  | nil => simp [commaJoined]
  | cons first rest ih =>
      cases rest with
      | nil => simp [commaJoined]
      | cons second others =>
          rw [commaJoined, ih, String.intercalate_cons_cons]

end Fields

------------------------------------------------------------
-- Tables of happenings
------------------------------------------------------------

namespace Bootstrap.Happening

/- What is told of a happening. -/
def table : Happening → FieldTable
  | configuration config _ => configurationFields config
  | certificates thingKey clientCert clientKey caCert =>
      [ ("thing_key", some thingKey)
      , ("client_cert", some clientCert)
      , ("client_key", some clientKey)
      , ("ca_cert", some caCert) ]
  | connections thingId channels =>
      [ ("thing_id", some thingId)
      , ("channels", some (",".intercalate channels)) ]
  | listing offset limit filter =>
      [ ("offset", natural offset)
      , ("limit", natural limit)
      , ("full_match",
          leftOutIf filter.fullMatch.isEmpty
            (Fields.jsonOfTexts filter.fullMatch))
      , ("partial_match",
          leftOutIf filter.partialMatch.isEmpty
            (Fields.jsonOfTexts filter.partialMatch)) ]
  | removal thingId =>
      [ ("thing_id", some thingId) ]
  | bootstrap config externalId =>
      [ ("external_id", some externalId)
      , ("thing_id", some config.thingId)
      , ("state", some config.state.render)
      , ("channels", channelIds config.channels) ]
  | stateChange thingId state =>
      [ ("thing_id", some thingId)
      , ("state", some state.render) ]
  | handlerRemoval id _ =>
      [ ("config_id", some id) ]
  | channelUpdate channel =>
      [ ("channel_id", some channel.id)
      , ("name", nonempty channel.name)
      , ("metadata",
          leftOutIf channel.metadata.isEmpty
            (Fields.jsonOfValues channel.metadata)) ]
  | disconnection channelId thingId =>
      [ ("channel_id", some channelId)
      , ("thing_id", some thingId) ]

/- A happening is encoded as its table. -/
theorem encode_eq_tabled
    (h : Happening) :
    h.encode = .tabled h.table := by
  cases h with
  | _ =>
      simp only [encode, putChannels, Fields.putNonempty,
        Fields.putNatural, Fields.put_eq_putSome,
        Fields.putUnless_eq_putSome, Fields.commaJoined_eq_intercalate]
      rfl

/- Each field is told once, and none in place of operation or time. -/
theorem names_once
    (h : Happening) :
    (Record.operationField :: Record.occurredAtField ::
      h.table.names).Nodup := by
  cases h with
  | _ =>
      simp [table, configurationFields, names, Record.operationField,
        Record.occurredAtField]

theorem names_nodup
    (h : Happening) :
    h.table.names.Nodup :=
  h.names_once.of_cons.of_cons

end Bootstrap.Happening

namespace Policy.Happening

/- What is told of a happening. -/
def table : Happening → FieldTable
  | authorization request entity =>
      [ ("subject", nonempty request.subject)
      , ("object", nonempty request.object)
      , ("action", nonempty request.action)
      , ("entity_type", nonempty entity) ]
  | change policy _ => policyFields policy
  | listing page =>
      [ ("offset", natural page.offset)
      , ("limit", natural page.limit)
      , ("subject", nonempty page.subject)
      , ("object", nonempty page.object)
      , ("action", nonempty page.action) ]

/- A happening is encoded as its table. -/
theorem encode_eq_tabled
    (h : Happening) :
    h.encode = .tabled h.table := by
  cases h with
  | _ =>
      simp only [encode, Fields.putNonempty, Fields.putNatural,
        Fields.putPositive, Fields.put_eq_putSome,
        Fields.putUnless_eq_putSome, Fields.commaJoined_eq_intercalate]
      rfl

/- Each field is told once, and none in place of operation or time. -/
theorem names_once
    (h : Happening) :
    (Record.operationField :: Record.occurredAtField ::
      h.table.names).Nodup := by
  cases h with
  | _ =>
      simp [table, policyFields, names, Record.operationField,
        Record.occurredAtField]

theorem names_nodup
    (h : Happening) :
    h.table.names.Nodup :=
  h.names_once.of_cons.of_cons

end Policy.Happening

------------------------------------------------------------
-- Events of a plan
------------------------------------------------------------

/-
  The events of a service are as planned.  None has a field that
  stands in place of the operation or the time of its record.
-/
structure Recording.Follows
    {Request : Type}
    {Answer : Request → Type}
    {Fault : Type}
    (recording : Recording Request Answer Fault)
    (plan : Plan Request Answer) : Prop where
  tagged :
    ∀ request answer,
      (recording.event request answer).operation = plan.tag request
  told :
    ∀ request answer,
      (recording.event request answer).fields =
        .tabled (plan.fields request answer)
  once :
    ∀ request answer,
      (Record.operationField :: Record.occurredAtField ::
        (plan.fields request answer).names).Nodup

/- The events of the bootstrap service are as planned. -/
theorem Bootstrap.follows_plan :
    recording.Follows plan where
  tagged := by
    intro request answer
    cases request with
    | _ => rfl
  told := by
    intro request answer
    have hFields :=
      (request.happening answer).encode_eq_tabled
    cases request with
    | _ => exact hFields
  once := by
    intro request answer
    have hOnce := (request.happening answer).names_once
    cases request with
    | _ => exact hOnce

/- So are those of the policy service. -/
theorem Policy.follows_plan :
    recording.Follows plan where
  tagged := by
    intro request answer
    cases request with
    | _ => rfl
  told := by
    intro request answer
    have hFields :=
      (request.happening answer).encode_eq_tabled
    cases request with
    | _ => exact hFields
  once := by
    intro request answer
    have hOnce := (request.happening answer).names_once
    cases request with
    | _ => exact hOnce

/- What is read from the record of an event. -/
theorem Record.get?_ofEvent
    (now : Instant)
    (stream : String)
    (maxLength : UInt64)
    (event : Event)
    (name : String) :
    (ofEvent now stream maxLength event).get? name =
      if name = "occurred_at" then
        some ((event.fields.get? name).getD (Nat.repr now.unixSeconds))
      else if name = "operation" then
        some ((event.fields.get? name).getD event.operation)
      else
        event.fields.get? name := by
  rw [get?, ofEvent, Dict.get?_insertNew, Dict.get?_insertNew]
  by_cases hTime : name = "occurred_at"
  · subst hTime
    simp [occurredAtField, operationField]
  · by_cases hOperation : name = "operation"
    · subst hOperation
      simp [occurredAtField, operationField]
    · simp [occurredAtField, operationField, hTime, hOperation,
        Ne.symm hTime, Ne.symm hOperation]

/-
  What is read from the record of a call at a time, on a stream
  with a length cap, that was answered: whose record it is, and
  nothing that is not of this call.
-/
structure Record.Tells
    {Request : Type}
    {Answer : Request → Type}
    (plan : Plan Request Answer)
    (settings : OutboxSettings)
    (now : Instant)
    (request : Request)
    (answer : Answer request)
    (record : Record) : Prop where
  streamed : record.stream = settings.stream
  capped : record.maxLength = settings.streamLength
  tagged : record.get? "operation" = some (plan.tag request)
  dated : record.get? "occurred_at" = some (Nat.repr now.unixSeconds)
  told :
    ∀ name, name ≠ "operation" → name ≠ "occurred_at" →
      record.get? name = (plan.fields request answer).value? name

/- The records of events that are as planned are so, too. -/
theorem Recording.Follows.tells
    {Request : Type}
    {Answer : Request → Type}
    {Fault : Type}
    {recording : Recording Request Answer Fault}
    {plan : Plan Request Answer}
    (hFollows : recording.Follows plan)
    (settings : OutboxSettings)
    (now : Instant)
    (request : Request)
    (answer : Answer request) :
    (Record.ofEvent now settings.stream settings.streamLength
      (recording.event request answer)).Tells plan settings now request
        answer := by
  have hOnce := hFollows.once request answer
  rw [List.nodup_cons, List.nodup_cons, List.mem_cons, not_or] at hOnce
  rcases hOnce with ⟨⟨hApart, hOperation⟩, hTime, hNames⟩
  have hRead :
      ∀ name,
        (recording.event request answer).fields.get? name =
          (plan.fields request answer).value? name := by
    intro name
    rw [hFollows.told, Fields.get?_tabled _ hNames]
  refine ⟨rfl, rfl, ?_, ?_, ?_⟩
  · have hNew := (hRead "operation").trans (value?_of_not_mem hOperation)
    have hName : "operation" ≠ "occurred_at" := hApart
    rw [Record.get?_ofEvent, if_neg hName, if_pos rfl, hNew,
      Option.getD_none, hFollows.tagged]
  · have hNew := (hRead "occurred_at").trans (value?_of_not_mem hTime)
    rw [Record.get?_ofEvent, if_pos rfl, hNew, Option.getD_none]
  · intro name hNotOperation hNotTime
    rw [Record.get?_ofEvent, if_neg hNotTime, if_neg hNotOperation, hRead]

end Courier
