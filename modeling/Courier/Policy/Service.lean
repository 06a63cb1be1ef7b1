import Courier.Policy.Event
import Courier.Service.Recorder

/-
  This file defines the policy service: its requests, their
  answers, its faults, and the event that each call is
  recorded as.

  Key definitions include:
    * `Policy.Fault`
    * `Policy.Request`
    * `Policy.Request.Answer`
    * `Policy.Request.happening`
    * `Policy.recording`
-/

namespace Courier.Policy

/- The stream that policy events belong on. -/
def stream : String :=
  "iot.things"

------------------------------------------------------------
-- Faults
------------------------------------------------------------

/- What can be wrong with a call on the service. -/
inductive Fault where
  | authorizationFailed
  | authenticationFailed
  | notFound
  | malformedEntity (detail : String)
  /- The call was made, but its event was refused. -/
  | outbox (fault : OutboxFault)
  deriving DecidableEq, Repr

namespace Fault

/- The name of what is wrong, without its details. -/
def name : Fault → String
  | authorizationFailed => "AuthorizationFailed"
  | authenticationFailed => "AuthenticationFailed"
  | notFound => "NotFound"
  | malformedEntity _ => "MalformedEntity"
  | outbox _ => "Outbox"

/- The text that reports a fault. -/
def message : Fault → String
  | authorizationFailed => "authorization failed"
  | authenticationFailed => "authentication failed"
  | notFound => "entity not found"
  | malformedEntity detail => "malformed entity: " ++ detail
  | outbox fault => fault.message

/- The text of the fault behind a fault, if there is one. -/
def cause? : Fault → Option String
  | outbox fault => fault.cause?
  | _ => none

end Fault

------------------------------------------------------------
-- Requests
------------------------------------------------------------

/- A call on the service. -/
inductive Request where
  /- Check a request; the answer is the authorized subject. -/
  | authorize (request : AccessRequest) (entity : String)
  | addPolicy (token : String) (policy : Policy)
  | updatePolicy (token : String) (policy : Policy)
  | listPolicies (token : String) (page : Page)
  | deletePolicy (token : String) (policy : Policy)
  deriving DecidableEq, Repr

namespace Request

/- The type of the answer to a request. -/
@[reducible]
def Answer : Request → Type
  | authorize .. => String
  | addPolicy .. => Policy
  | updatePolicy .. => Policy
  | listPolicies .. => PolicyPage
  | deletePolicy .. => Unit

------------------------------------------------------------
-- Recording
------------------------------------------------------------

/- What happened when a request was answered. -/
def happening :
    (request : Request) → request.Answer → Happening
  | authorize request entity, _ => .authorization request entity
  | addPolicy .., policy => .change policy Operation.add
  | updatePolicy .., policy => .change policy Operation.update
  | listPolicies _ page, _ => .listing page
  | deletePolicy _ policy, _ => .change policy Operation.delete

/- Only calls that change nothing go on without their event. -/
def policy : Request → EmitPolicy
  | authorize .. => .bestEffort
  | listPolicies .. => .bestEffort
  | _ => .required

end Request

/- How the calls of the service are recorded. -/
def recording : Recording Request Request.Answer Fault where
  event := fun request answer => (request.happening answer).event
  policy := Request.policy
  fault := .outbox

end Courier.Policy
