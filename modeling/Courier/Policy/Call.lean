import Courier.Policy.Service

/-
  This file defines how the requests of the policy service
  and their answers are written in JSON.  A request is a list
  of the name of its method and its arguments in order.

  Key definitions include:
    * `Policy.Request.method`
    * `Policy.Request.toValue`
    * `Policy.Request.answerValue`
-/

namespace Courier.Policy.Request

open Json (Value)

/- The name of the method that a request calls. -/
def method : Request → String
  | authorize .. => "authorize"
  | addPolicy .. => "add_policy"
  | updatePolicy .. => "update_policy"
  | listPolicies .. => "list_policies"
  | deletePolicy .. => "delete_policy"

/- The arguments of a request. -/
def arguments : Request → List Value
  | authorize request entity =>
      [AccessRequest.codec.toValue request, .text entity]
  | addPolicy token policy =>
      [.text token, Policy.codec.toValue policy]
  | updatePolicy token policy =>
      [.text token, Policy.codec.toValue policy]
  | listPolicies token page =>
      [.text token, Page.codec.toValue page]
  | deletePolicy token policy =>
      [.text token, Policy.codec.toValue policy]

/- A request in JSON. -/
def toValue
    (request : Request) : Value :=
  .list (.text request.method :: request.arguments)

/- The answer to a request in JSON. -/
def answerValue :
    (request : Request) → request.Answer → Value
  | authorize .., subject => .text subject
  | addPolicy .., policy => Policy.codec.toValue policy
  | updatePolicy .., policy => Policy.codec.toValue policy
  | listPolicies .., page => PolicyPage.codec.toValue page
  | deletePolicy .., _ => .null

end Courier.Policy.Request
