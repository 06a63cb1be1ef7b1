import Courier.Duration
import Courier.Json.Codec
import Courier.Settings.Environment

/-
  This file defines the settings of an outbox: the stream of
  its events, the bounds on probes and appends, how often
  unpublished events are retried, and how many are kept.

  Key definitions include:
    * `OutboxSettings`
    * `OutboxSettings.forStream`
    * `OutboxSettings.validate`
    * `OutboxSettings.ofEnvironment`
    * `OutboxSettings.codec`
-/

namespace Courier

/- The settings of the outbox of one service. -/
structure OutboxSettings where
  /- The stream that events are appended to. -/
  stream : String
  /- About how many entries the stream keeps. -/
  streamLength : UInt64
  /- How long a probe may take, in milliseconds. -/
  probeTimeoutMs : UInt64
  /- How long an append may take, in milliseconds. -/
  appendTimeoutMs : UInt64
  /- How often unpublished events are retried, in seconds. -/
  flushIntervalSecs : UInt64
  /- How many unpublished events are kept. -/
  bufferCapacity : UInt64
  deriving DecidableEq, Repr

namespace OutboxSettings

------------------------------------------------------------
-- Defaults
------------------------------------------------------------

/- The settings of a stream where nothing else is set. -/
def forStream
    (stream : String) : OutboxSettings where
  stream := stream
  streamLength := 1000
  probeTimeoutMs := 100
  appendTimeoutMs := 1000
  flushIntervalSecs := 60
  bufferCapacity := 10000

/- The settings where nothing is set. -/
def default : OutboxSettings :=
  forStream "events"

------------------------------------------------------------
-- Durations
------------------------------------------------------------

/- How long a probe may take. -/
def probeTimeout
    (s : OutboxSettings) : Duration :=
  .ofMilliseconds s.probeTimeoutMs.toNat

/- How long an append may take. -/
def appendTimeout
    (s : OutboxSettings) : Duration :=
  .ofMilliseconds s.appendTimeoutMs.toNat

/- How often unpublished events are retried. -/
def flushInterval
    (s : OutboxSettings) : Duration :=
  .ofSeconds s.flushIntervalSecs.toNat

------------------------------------------------------------
-- Checks
------------------------------------------------------------

/- Check that settings can be used. -/
def validate
    (s : OutboxSettings) : Except Fault Unit :=
  if s.stream.isEmpty then
    .error (.config "outbox stream cannot be empty")
  else if s.streamLength = 0 then
    .error (.config "outbox stream length must be positive")
  else if s.probeTimeoutMs = 0 then
    .error (.config "probe timeout must be positive")
  else if s.appendTimeoutMs = 0 then
    .error (.config "append timeout must be positive")
  else if s.flushIntervalSecs = 0 then
    .error (.config "flush interval must be positive")
  else if s.bufferCapacity = 0 then
    .error (.config "buffer capacity must be positive")
  else
    .ok ()

/- The settings that the environment asks for, checked. -/
def ofEnvironment
    (env : Environment)
    (stream : String) : Except Fault OutboxSettings := do
  let d := forStream stream
  let streamLength ←
    env.natural "RELAYBUS_OUTBOX_STREAM_LEN" d.streamLength
  let probeTimeoutMs ←
    env.natural "RELAYBUS_OUTBOX_PROBE_TIMEOUT_MS" d.probeTimeoutMs
  let appendTimeoutMs ←
    env.natural "RELAYBUS_OUTBOX_APPEND_TIMEOUT_MS" d.appendTimeoutMs
  let flushIntervalSecs ←
    env.natural "RELAYBUS_OUTBOX_FLUSH_INTERVAL_SECS" d.flushIntervalSecs
  let bufferCapacity ←
    env.natural "RELAYBUS_OUTBOX_BUFFER_CAPACITY" d.bufferCapacity
  let settings : OutboxSettings :=
    { stream := env.text "RELAYBUS_OUTBOX_STREAM" d.stream
      streamLength, probeTimeoutMs, appendTimeoutMs
      flushIntervalSecs, bufferCapacity }
  settings.validate
  return settings

------------------------------------------------------------
-- JSON
------------------------------------------------------------

/- Settings of outboxes in JSON; any field may be missing. -/
def codec : Json.Codec OutboxSettings :=
  .record
    [ .of "stream" .text (·.stream)
        fun v s => { s with stream := v }
    , .of "stream_len" .natural (·.streamLength)
        fun v s => { s with streamLength := v }
    , .of "probe_timeout_ms" .natural (·.probeTimeoutMs)
        fun v s => { s with probeTimeoutMs := v }
    , .of "append_timeout_ms" .natural (·.appendTimeoutMs)
        fun v s => { s with appendTimeoutMs := v }
    , .of "flush_interval_secs" .natural (·.flushIntervalSecs)
        fun v s => { s with flushIntervalSecs := v }
    , .of "buffer_capacity" .natural (·.bufferCapacity)
        fun v s => { s with bufferCapacity := v } ]
    true default

end OutboxSettings

end Courier
