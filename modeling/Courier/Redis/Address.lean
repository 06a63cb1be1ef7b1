import Courier.Outbox.Fault
import Courier.Redis.Path
import Courier.Settings.Outbox

/-
  This file defines the addresses of Redis servers: a host,
  possibly with a user, a password, a port and the number of a
  database, or the path of a socket.

  Key definitions include:
    * `Redis.Address.Place`
    * `Redis.Address.isValid`
    * `Redis.Opened`
    * `Redis.openStore`
-/

namespace Courier.Redis

namespace Address

open Host (cutBefore pieces)

------------------------------------------------------------
-- Parts
------------------------------------------------------------

/- The characters that are dropped wherever they stand. -/
def isIgnored
    (c : Char) : Bool :=
  c == '\t' || c == '\n' || c == '\r'

/- The characters that are dropped at both ends. -/
def isPadding
    (c : Char) : Bool :=
  c.toNat ≤ 32

/- A text without what is dropped from it. -/
def cleaned
    (cs : List Char) : List Char :=
  let cs := (cs.dropWhile isPadding).reverse.dropWhile isPadding
  cs.reverse.filter fun c => !isIgnored c

/- The user that an authority starts with, if any, and the rest. -/
def cutBehindUser
    (authority : List Char) : Option (List Char) × List Char :=
  match cutBefore (· == '@') authority.reverse with
  | (host, '@' :: user) => (some user.reverse, host.reverse)
  | _ => (none, authority)

/- Whether a text is a number of 64 bits, possibly with a sign. -/
def isNumber
    (cs : List Char) : Bool :=
  let digits := match cs with
    | '+' :: rest => rest
    | '-' :: rest => rest
    | _ => cs
  let most :=
    if cs.head? = some '-' then 9223372036854775808
    else 9223372036854775807
  !digits.isEmpty && digits.all Char.isDigit
    && decide (Text.ofDecimalDigits digits ≤ most)

/- Whether the path of an address is empty or a number. -/
def isDatabase
    (rest : List Char) : Bool :=
  let name := Path.text rest
  name.isEmpty || isNumber name

------------------------------------------------------------
-- Queries
------------------------------------------------------------

/- A part of a query as the text that it stands for. -/
def decoded
    (cs : List Char) : String :=
  (Text.percentDecoded? (cs.map fun c => if c = '+' then ' ' else c)).getD ""

/- The value that a query gives a name last, if it gives one. -/
def lastValue?
    (name : String)
    (query : List Char) : Option String :=
  let pairs := (pieces '&' query).map fun pair =>
    let (key, value) := cutBefore (· == '=') pair
    (decoded key, decoded (value.drop 1))
  (pairs.reverse.find? fun pair => pair.1 == name).map (·.2)

/- The query behind a path, up to the fragment. -/
def queryOf
    (rest : List Char) : List Char :=
  match cutBefore (fun c => c == '?' || c == '#') rest with
  | (_, '?' :: query) => (cutBefore (· == '#') query).1
  | _ => []

------------------------------------------------------------
-- Addresses
------------------------------------------------------------

/- Whether a text is a path, with a number for any database. -/
def isSocketPath
    (cs : List Char) : Bool :=
  match lastValue? "db" (queryOf cs) with
  | none => cs.head? == some '/'
  | some value => cs.head? == some '/' && isNumber value.toList

/- What follows the slashes of an address. -/
structure Place where
  user : Option (List Char)
  host : List Char
  /- The path, the query and the fragment. -/
  rest : List Char
  deriving DecidableEq, Repr

/- The place that a text gives, if it gives one. -/
def Place.ofText?
    (cs : List Char) : Option Place :=
  let (authority, rest) := cutBefore Host.isDelimiter cs
  let (user, host) := cutBehindUser authority
  (Host.cut? (host ++ rest)).map fun (host, rest) => ⟨user, host, rest⟩

/- Whether a place is a server on a network. -/
def Place.isNetwork
    (place : Place) : Bool :=
  (Text.percentDecoded? (place.user.getD [])).isSome
    && !place.host.isEmpty && isDatabase place.rest

/-
  Whether a place is the path of a socket.  Without a host
  there is no user, or one with neither name nor password.
-/
def Place.isSocket
    (place : Place) : Bool :=
  let isHere :=
    if place.host.isEmpty then
      place.user.isNone || place.user == some [':']
    else
      place.host == "localhost".toList
  isHere && isSocketPath place.rest

/- The ways to reach a server. -/
inductive Scheme where
  | network
  | localSocket
  deriving DecidableEq, Repr

/- The way that a name stands for; none with encryption does. -/
def Scheme.ofName?
    (name : List Char) : Option Scheme :=
  match String.ofList (name.map Char.toLower) with
  | "redis" => some .network
  | "unix" => some .localSocket
  | "redis+unix" => some .localSocket
  | _ => none

/- Whether an address can be used. -/
def isValid
    (address : String) : Bool :=
  let (name, rest) := cutBefore (· == ':') (cleaned address.toList)
  match Scheme.ofName? name, rest with
  | some .network, ':' :: '/' :: '/' :: rest =>
      (Place.ofText? rest).any Place.isNetwork
  | some .localSocket, ':' :: '/' :: '/' :: rest =>
      (Place.ofText? rest).any Place.isSocket
  | some .localSocket, ':' :: rest => isSocketPath rest
  | _, _ => false

end Address

------------------------------------------------------------
-- Opening
------------------------------------------------------------

/- How a store on a server is used. -/
structure Opened where
  address : String
  /- How long an append may take. -/
  appendTimeout : Duration
  deriving DecidableEq, Repr

/-
  Open a store as its settings ask.  No connection is made
  until the first call.
-/
def openStore
    (address : String)
    (settings : OutboxSettings) : Except StoreFault Opened :=
  if Address.isValid address then
    .ok ⟨address, settings.appendTimeout⟩
  else
    .error (.rejected "invalid address")

end Courier.Redis
