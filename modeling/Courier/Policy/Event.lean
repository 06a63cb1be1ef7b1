import Courier.Outbox.Fields
import Courier.Policy.Policy

/-
  This file defines the events of the policy service and the
  fields that they are recorded with.

  Key definitions include:
    * `Policy.Happening`
    * `Policy.Happening.operation`
    * `Policy.Happening.encode`
    * `Policy.Happening.event`
-/

namespace Courier.Policy

------------------------------------------------------------
-- Operations
------------------------------------------------------------

namespace Operation

def authorize : String := "policy.authorize"

def add : String := "policy.add"

def update : String := "policy.update"

def list : String := "policy.list"

def delete : String := "policy.delete"

end Operation

------------------------------------------------------------
-- Happenings
------------------------------------------------------------

/- What happens in the policy service. -/
inductive Happening where
  /- A request was authorized for a kind of entity. -/
  | authorization (request : AccessRequest) (entity : String)
  /- A policy was added, updated or deleted. -/
  | change (policy : Policy) (operation : String)
  /- Policies were listed. -/
  | listing (page : Page)
  deriving DecidableEq, Repr

namespace Happening

/- The operation that a happening is recorded as. -/
def operation : Happening → String
  | authorization .. => Operation.authorize
  | change _ operation => operation
  | listing _ => Operation.list

/- The fields that a happening is recorded with. -/
def encode : Happening → Fields
  | authorization request entity =>
      Dict.empty
        |> Fields.putNonempty "subject" request.subject
        |> Fields.putNonempty "object" request.object
        |> Fields.putNonempty "action" request.action
        |> Fields.putNonempty "entity_type" entity
  | change policy _ =>
      Dict.empty
        |> Fields.putNonempty "owner_id" policy.ownerId
        |> Fields.putNonempty "subject" policy.subject
        |> Fields.putNonempty "object" policy.object
        |> Fields.putUnless policy.actions.isEmpty
            "actions" (Fields.commaJoined policy.actions)
        |> Fields.putPositive "created_at" policy.createdAt
        |> Fields.putPositive "updated_at" policy.updatedAt
  | listing page =>
      Dict.empty
        |> Fields.putNatural "offset" page.offset
        |> Fields.putNatural "limit" page.limit
        |> Fields.putNonempty "subject" page.subject
        |> Fields.putNonempty "object" page.object
        |> Fields.putNonempty "action" page.action

/- The event that a happening is recorded as. -/
def event
    (h : Happening) : Event where
  operation := h.operation
  fields := h.encode

end Happening

end Courier.Policy
