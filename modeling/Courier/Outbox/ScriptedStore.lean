import Courier.Outbox.Store

/-
  This file defines stores whose next answers are scripted.
  Behind the script is another store, which answers where the
  script says so and where it is over.

  Key definitions include:
    * `ProbeCue`
    * `AppendCue`
    * `Scripted`
    * `Scripted.store`
-/

namespace Courier

/- What a script says about a probe. -/
inductive ProbeCue where
  /- The store behind answers. -/
  | pass
  /- The probe succeeds, but some time after its limit. -/
  | late (delay : Duration)
  /- The probe fails. -/
  | fail (fault : StoreFault)
  deriving DecidableEq, Repr

/- What a script says about an append. -/
inductive AppendCue where
  /- The store behind answers. -/
  | pass
  /- The append fails. -/
  | fail (fault : StoreFault)
  deriving DecidableEq, Repr

/- The state of a scripted store. -/
structure Scripted (σ : Type) where
  probes : List ProbeCue
  appends : List AppendCue
  /- How many appends were accepted or refused. -/
  settled : Nat
  /- The state of the store behind. -/
  inner : σ

namespace Scripted

variable {α σ : Type}

/- The store without a script. -/
def create
    (inner : σ) : Scripted σ where
  probes := []
  appends := []
  settled := 0
  inner := inner

/- Add cues to the script. -/
def cue
    (probes : List ProbeCue)
    (appends : List AppendCue)
    (s : Scripted σ) : Scripted σ :=
  { s with
    probes := s.probes ++ probes
    appends := s.appends ++ appends }

/- Probe the store behind. -/
def probeInner
    (store : Store α σ)
    (limit : Duration)
    (s : Scripted σ) : Probe × Scripted σ :=
  let (probe, inner) := store.ping limit s.inner
  (probe, { s with inner := inner })

/- Probe the store as the script says. -/
def ping
    (store : Store α σ)
    (limit : Duration)
    (s : Scripted σ) : Probe × Scripted σ :=
  match s.probes with
  | [] => probeInner store limit s
  | cue :: rest =>
      let s := { s with probes := rest }
      match cue with
      | .pass => probeInner store limit s
      | .late delay => (.after (limit + delay) (.ok ()), s)
      | .fail fault => (.immediate (.error fault), s)

/- Whether the store accepted or refused an item. -/
def settles : Except StoreFault String → Bool
  | .ok _ => true
  | .error fault => !fault.isConnection

/- Count an answer that settles an item. -/
def settle
    (answer : Except StoreFault String)
    (s : Scripted σ) : Scripted σ :=
  { s with settled := s.settled + if settles answer then 1 else 0 }

/- Append to the store behind. -/
def appendInner
    (store : Store α σ)
    (now : Instant)
    (item : α)
    (s : Scripted σ) : Except StoreFault String × Scripted σ :=
  let (answer, inner) := store.append now item s.inner
  (answer, settle answer { s with inner := inner })

/- Append as the script says. -/
def append
    (store : Store α σ)
    (now : Instant)
    (item : α)
    (s : Scripted σ) : Except StoreFault String × Scripted σ :=
  match s.appends with
  | [] => appendInner store now item s
  | cue :: rest =>
      let s := { s with appends := rest }
      match cue with
      | .pass => appendInner store now item s
      | .fail fault => (.error fault, settle (.error fault) s)

/- The scripted store in front of another. -/
def store
    (store : Store α σ) : Store α (Scripted σ) where
  ping := ping store
  append := append store

end Scripted

end Courier
