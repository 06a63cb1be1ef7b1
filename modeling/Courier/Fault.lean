/-
  This file defines the faults of topics, messages,
  configurations and transports, with the text that reports
  each of them.

  Key definitions include:
    * `Fault`
    * `Fault.name`
    * `Fault.message`
    * `Fault.cause?`
    * `Fault.isConnection`
-/

namespace Courier

/- What can be wrong with a call on a transport. -/
inductive Fault where
  /- Publishing or subscribing without a topic. -/
  | emptyTopic
  /- Subscribing or unsubscribing without a client id. -/
  | emptyId
  /- A topic built from, or read back to, an empty channel. -/
  | emptyChannel
  /- A topic or channel that holds reserved characters. -/
  | malformedTopic (detail : String)
  /- Unsubscribing where there is no subscription. -/
  | notSubscribed
  /- The transport refused or lost the call. -/
  | connection (detail : String)
  /- A handler refused to be cancelled. -/
  | handlerCancel (detail : String)
  /- Octets that are not the wire form of a message. -/
  | codec (detail : String)
  /- The client was closed. -/
  | closed
  /- A configuration that cannot be used. -/
  | config (detail : String)
  /- The lock on the subscriptions was left poisoned. -/
  | lockPoisoned (during : String)
  /- The call broke off in a panic, and returned nothing at all. -/
  | panicked
  deriving DecidableEq, Repr

namespace Fault

/- The name of what is wrong, without its details. -/
def name : Fault → String
  | emptyTopic => "EmptyTopic"
  | emptyId => "EmptyId"
  | emptyChannel => "EmptyChannel"
  | malformedTopic _ => "MalformedTopic"
  | notSubscribed => "NotSubscribed"
  | connection _ => "Connection"
  | handlerCancel _ => "HandlerCancel"
  | codec _ => "Codec"
  | closed => "Closed"
  | config _ => "Config"
  | lockPoisoned _ => "LockPoisoned"
  | panicked => "Panicked"

/- The text that reports a fault. -/
def message : Fault → String
  | emptyTopic => "empty topic"
  | emptyId => "empty id"
  | emptyChannel => "empty channel"
  | malformedTopic detail => "malformed topic: " ++ detail
  | notSubscribed => "not subscribed"
  | connection detail => "connection error: " ++ detail
  | handlerCancel detail => "handler cancel failed: " ++ detail
  | codec detail => "codec error: " ++ detail
  | closed => "broker client closed"
  | config detail => "configuration error: " ++ detail
  | lockPoisoned during => "lock poisoned during " ++ during
  | panicked => "panicked"

/- The text of the fault behind a fault, if there is one. -/
def cause? : Fault → Option String
  | handlerCancel detail => some detail
  | _ => none

/-
  Whether a fault comes from the transport and not from the
  arguments of the call.
-/
def isConnection : Fault → Bool
  | connection _ => true
  | closed => true
  | _ => false

end Fault

end Courier
