import Courier.Json.Codec

/-
  This file defines access policies, requests to be checked
  against them, and the pages in which they are listed.

  Key definitions include:
    * `Policy`
    * `Policy.AccessRequest`
    * `Policy.Page`
    * `Policy.PolicyPage`
-/

namespace Courier

------------------------------------------------------------
-- Policies
------------------------------------------------------------

/- Who may do what on which object. -/
structure Policy where
  ownerId : String
  subject : String
  object : String
  actions : List String
  /- When the policy was made, in Unix seconds. -/
  createdAt : UInt64
  /- When the policy was last changed, in Unix seconds. -/
  updatedAt : UInt64
  deriving DecidableEq, Repr

namespace Policy

/- The policy in which nothing is set. -/
def empty : Policy where
  ownerId := ""
  subject := ""
  object := ""
  actions := []
  createdAt := 0
  updatedAt := 0

/- Policies in JSON. -/
def codec : Json.Codec Policy :=
  .record
    [ .of "owner_id" .text (·.ownerId)
        fun v p => { p with ownerId := v }
    , .of "subject" .text (·.subject)
        fun v p => { p with subject := v }
    , .of "object" .text (·.object)
        fun v p => { p with object := v }
    , .of "actions" (.list .text) (·.actions)
        fun v p => { p with actions := v }
    , .of "created_at" .natural (·.createdAt)
        fun v p => { p with createdAt := v }
    , .of "updated_at" .natural (·.updatedAt)
        fun v p => { p with updatedAt := v } ]
    false empty

------------------------------------------------------------
-- Requests
------------------------------------------------------------

/- What a subject wants to do on an object. -/
structure AccessRequest where
  subject : String
  object : String
  action : String
  deriving DecidableEq, Repr

namespace AccessRequest

/- Requests in JSON. -/
def codec : Json.Codec AccessRequest :=
  .record
    [ .of "subject" .text (·.subject)
        fun v r => { r with subject := v }
    , .of "object" .text (·.object)
        fun v r => { r with object := v }
    , .of "action" .text (·.action)
        fun v r => { r with action := v } ]
    false
    { subject := "", object := "", action := "" }

end AccessRequest

------------------------------------------------------------
-- Listing
------------------------------------------------------------

/- Which policies are listed. -/
structure Page where
  total : UInt64
  offset : UInt64
  limit : UInt64
  subject : String
  object : String
  action : String
  deriving DecidableEq, Repr

namespace Page

/- The page in which nothing is set. -/
def empty : Page where
  total := 0
  offset := 0
  limit := 0
  subject := ""
  object := ""
  action := ""

/- Pages in JSON. -/
def codec : Json.Codec Page :=
  .record
    [ .of "total" .natural (·.total)
        fun v p => { p with total := v }
    , .of "offset" .natural (·.offset)
        fun v p => { p with offset := v }
    , .of "limit" .natural (·.limit)
        fun v p => { p with limit := v }
    , .of "subject" .text (·.subject)
        fun v p => { p with subject := v }
    , .of "object" .text (·.object)
        fun v p => { p with object := v }
    , .of "action" .text (·.action)
        fun v p => { p with action := v } ]
    false empty

end Page

/- The policies of a page. -/
structure PolicyPage where
  page : Page
  policies : List Policy
  deriving DecidableEq, Repr

namespace PolicyPage

/- The page without policies. -/
def empty : PolicyPage where
  page := .empty
  policies := []

/- Pages with their policies in JSON. -/
def codec : Json.Codec PolicyPage :=
  .record
    [ .of "page" Page.codec (·.page)
        fun v p => { p with page := v }
    , .of "policies" (.list Policy.codec) (·.policies)
        fun v p => { p with policies := v } ]
    false empty

end PolicyPage

end Policy

end Courier
