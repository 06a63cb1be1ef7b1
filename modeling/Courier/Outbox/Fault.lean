import Courier.Duration

/-
  This file defines the faults of stream stores and of the
  outbox in front of them.

  Key definitions include:
    * `StoreFault`
    * `StoreFault.isConnection`
    * `OutboxFault`
-/

namespace Courier

------------------------------------------------------------
-- Faults of stores
------------------------------------------------------------

/- What can be wrong with a call on a stream store. -/
inductive StoreFault where
  /- The store cannot be reached. -/
  | unavailable (detail : String)
  /- The store took longer than allowed. -/
  | timeout (limit : Duration)
  /- The store refused the record. -/
  | rejected (detail : String)
  /- A lock was left poisoned. -/
  | lockPoisoned (during : String)
  deriving DecidableEq, Repr

namespace StoreFault

/- The name of what is wrong, without its details. -/
def name : StoreFault → String
  | unavailable _ => "Unavailable"
  | timeout _ => "Timeout"
  | rejected _ => "Rejected"
  | lockPoisoned _ => "LockPoisoned"

/- The text that reports a fault. -/
def message : StoreFault → String
  | unavailable detail => "event store unavailable: " ++ detail
  | timeout limit => "event store timed out after " ++ limit.render
  | rejected detail => "event store rejected record: " ++ detail
  | lockPoisoned during => "lock poisoned during " ++ during

/-
  Whether the store could not be reached, so that the same
  record may be accepted later.
-/
def isConnection : StoreFault → Bool
  | unavailable _ => true
  | timeout _ => true
  | _ => false

end StoreFault

------------------------------------------------------------
-- Faults of outboxes
------------------------------------------------------------

/- What an outbox reports to the service in front of it. -/
inductive OutboxFault where
  /- The store refused the record of an event. -/
  | append (fault : StoreFault)
  /- A lock was left poisoned. -/
  | lockPoisoned (during : String)
  deriving DecidableEq, Repr

namespace OutboxFault

/- The name of what is wrong, without its details. -/
def name : OutboxFault → String
  | append _ => "Append"
  | lockPoisoned _ => "LockPoisoned"

/- The text that reports a fault. -/
def message : OutboxFault → String
  | append fault => "failed to append event: " ++ fault.message
  | lockPoisoned during => "lock poisoned during " ++ during

/- The text of the fault behind a fault, if there is one. -/
def cause? : OutboxFault → Option String
  | append fault => some fault.message
  | lockPoisoned _ => none

end OutboxFault

end Courier
