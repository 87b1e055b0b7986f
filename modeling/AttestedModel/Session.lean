import AttestedModel.Disk
import AttestedModel.Duration
import AttestedModel.Error
import AttestedModel.Http.Message
import AttestedModel.Rsa.KeyPair

/-!
# Sessions

A session is what a call can see and change: the clock, the moments at which it
is cancelled and at which its time is up, the disk, the model that was last
retrieved, the events so far, and a world that answers by rules of its own.

An `Action` is a call in a session.  It is done, or it fails, or it never ends.
Time passes only while an action waits, and then straight to the next moment at
which something happens: a cancellation comes first among things of the same
moment, the end of the waiting second, and the deadline last.
-/

namespace AttestedModel

/-- What happened in a session. -/
inductive Event
  /-- A document was asked for. -/
  | fetched (request : Http.Request)
  | madeKeyPair (pair : Except CryptoError Rsa.KeyPair)
  | boundEvidence (binding : Bytes)
  /-- A key broker was asked, at a time. -/
  | transferred (time : Nat) (request : Http.Request)
  /-- A wait of a length began. -/
  | waited (length : Duration)
  /-- A file was staged, or was tried to be. -/
  | staged (directory name : String)

/-- What a call can see and change. -/
structure Session (σ : Type) where
  world : σ
  /-- Milliseconds on the clock. -/
  now : Nat
  cancelledAt : Option Nat
  deadline : Option Nat
  disk : Disk
  retrieved : Option Bytes
  events : List Event

/-- A session at the beginning of time. -/
def Session.start (world : σ) (disk : Disk) : Session σ :=
  { world, now := 0, cancelledAt := none, deadline := none, disk, retrieved := none, events := [] }

/-- How an action ends. -/
inductive Outcome (α : Type)
  | done (value : α)
  | failed (error : LoadError)
  | never

/-- A call in a session. -/
def Action (σ α : Type) : Type :=
  Session σ → Outcome α × Session σ

namespace Action

instance : Monad (Action σ) where
  pure a := fun s => (.done a, s)
  bind action next := fun s =>
    match action s with
    | (.done a, s) => next a s
    | (.failed e, s) => (.failed e, s)
    | (.never, s) => (.never, s)

/-- Ends with a failure. -/
def fail (error : LoadError) : Action σ α :=
  fun s => (.failed error, s)

/-- Ends as a result says. -/
def ofExcept : Except LoadError α → Action σ α
  | .ok a => pure a
  | .error e => fail e

/-- Notes an event. -/
def note (event : Event) : Action σ Unit :=
  fun s => (.done (), { s with events := s.events ++ [event] })

/-- Asks the world. -/
def ask (answer : σ → α × σ) : Action σ α :=
  fun s =>
    let (a, world) := answer s.world
    (.done a, { s with world })

/-- The time. -/
def now : Action σ Nat :=
  fun s => (.done s.now, s)

/-- Cancels the call now. -/
def cancel : Action σ Unit :=
  fun s => (.done (), { s with cancelledAt := some (min s.now (s.cancelledAt.getD s.now)) })

/-- Fails if the call has been cancelled. -/
def failIfCancelled : Action σ Unit :=
  fun s => if s.cancelledAt.any (· ≤ s.now) then (.failed .cancelled, s) else (.done (), s)

/-- Fails if the time is up.  The deadline is looked at wherever work goes on elsewhere. -/
def failIfExpired : Action σ Unit :=
  fun s => if s.deadline.any (· ≤ s.now) then (.failed .timeout, s) else (.done (), s)

/-- The moment at which something ends, and how. -/
abbrev Moment := Nat × Outcome Unit

/-- The earlier of two moments, the first one if they are the same. -/
def earlier : Option Moment → Option Moment → Option Moment
  | some a, some b => if a.1 ≤ b.1 then some a else some b
  | some a, none => some a
  | none, b => b

/-- Waits until a time, or for ever, unless the call is cancelled or its time is up before. -/
def waitUntil (time : Option Nat) : Action σ Unit :=
  fun s =>
    let at_ (outcome : Outcome Unit) (time : Nat) : Moment := (max time s.now, outcome)
    let cancelled := s.cancelledAt.map (at_ (.failed .cancelled))
    let reached := time.map (at_ (.done ()))
    let expired := s.deadline.map (at_ (.failed .timeout))
    match earlier cancelled (earlier reached expired) with
    | some (now, outcome) => (outcome, { s with now })
    | none => (.never, s)

/-- Runs an action that must end within a limit. -/
def within (limit : Option Duration) (action : Action σ α) : Action σ α :=
  fun s =>
    let (outcome, t) := action { s with deadline := limit.map (s.now + ·.milliseconds) }
    (outcome, { t with deadline := s.deadline })

end Action

end AttestedModel
