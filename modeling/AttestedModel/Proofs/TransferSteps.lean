import AttestedModel.Broker.Exchange
import AttestedModel.Proofs.SessionEvents

/-!
# What the steps of a transfer have, the transfer has

A transfer is a loop around attempts and waits, and these are chains of a few
primitives.  A relation between two calls that holds of each primitive, and that
chains pass on, therefore holds of a whole transfer with itself.  This is proved
once, by induction on the attempts that are left (`Frame.post`), for every
relation that makes a `Frame`.

The two transfers need not have the same peers.  Those of the second one may have
their cancellations muted, so that a frame also compares a transfer with the same
one without cancellation.
-/

namespace AttestedModel.Broker

open AttestedModel.Action

variable {σ : Type}

/-- A reaction that cancels as a rule says. -/
def Reaction.muted (mute : Bool → Bool) (reaction : Reaction) : Reaction :=
  { reaction with cancels := mute reaction.cancels }

/-- Peers that answer as others do, and cancel as a rule says. -/
def Peers.muted (peers : Peers σ) (mute : Bool → Bool) : Peers σ :=
  { peers with post := fun request world =>
      ((peers.post request world).1.muted mute, (peers.post request world).2) }

/-- Notes that a request is sent now, and gives the time. -/
def send (request : Http.Request) : Action σ Nat := do
  let time ← Action.now
  Action.note (.transferred time request)
  return time

/-- Cancels the call if a reaction does. -/
def cancelIf (cancels : Bool) : Action σ Unit :=
  if cancels then Action.cancel else pure ()

/-- What an attempt gives after the delay of its reaction. -/
def answerOf (reaction : Reaction) : Action σ (Except TransportFault Http.Response) :=
  match reaction.answer with
  | some answer => pure answer
  | none => do
    Action.waitUntil none
    return .error (.other "")

/-- Waits for what a request of a time brings about. -/
def await (time : Nat) (reaction : Reaction) : Action σ (Except TransportFault Http.Response) := do
  Action.waitUntil (some (time + reaction.delay.milliseconds))
  cancelIf reaction.cancels
  answerOf reaction

/-- An attempt is a request that is sent and then waited for. -/
theorem attempt_eq (peers : Peers σ) (request : Http.Request) :
    attempt peers request = (do
      Action.failIfCancelled
      let time ← send request
      let reaction ← Action.ask (peers.post request)
      await time reaction) := by
  have hcancel : ∀ reaction : Reaction,
      (if reaction.cancels then (do Action.cancel; answerOf reaction) else answerOf reaction :
        Action σ (Except TransportFault Http.Response)) =
        (do cancelIf reaction.cancels; answerOf reaction) := by
    intro reaction
    cases reaction.cancels <;> rfl
  have hattempt : attempt peers request = (do
      Action.failIfCancelled
      let time ← Action.now
      Action.note (.transferred time request)
      let reaction ← Action.ask (peers.post request)
      Action.waitUntil (some (time + reaction.delay.milliseconds))
      if reaction.cancels then (do Action.cancel; answerOf reaction) else answerOf reaction) :=
    rfl
  rw [hattempt]
  simp only [hcancel]
  rfl

/-- A relation between calls that holds of the steps of a transfer of a request and is passed on by
chains.  On the second side cancellations may be muted. -/
structure Frame (mute : Bool → Bool) (request : Http.Request)
    (R : ∀ {α : Type}, Action σ α → Action σ α → Prop) : Prop where
  pure {α : Type} (a : α) : R (Pure.pure a) (Pure.pure a)
  bind {α β : Type} {action action₀ : Action σ α} {next next₀ : α → Action σ β}
    (h : R action action₀) (hnext : ∀ a, R (next a) (next₀ a)) :
    R (action >>= next) (action₀ >>= next₀)
  /-- A failure of a transfer, other than by cancellation or deadline. -/
  unreachable {α : Type} (detail : String) :
    R (fail (.keyBrokerUnreachable detail) : Action σ α) (fail (.keyBrokerUnreachable detail))
  failIfCancelled : R failIfCancelled failIfCancelled
  send : R (send request) (send request)
  ask {α : Type} (peers : Peers σ) {next next₀ : Reaction → Action σ α}
    (hnext : ∀ reaction, R (next reaction) (next₀ (reaction.muted mute))) :
    R (Action.ask (peers.post request) >>= next)
      (Action.ask ((peers.muted mute).post request) >>= next₀)
  cancelIf (cancels : Bool) : R (cancelIf cancels) (cancelIf (mute cancels))
  /-- The begin of a wait between two attempts. -/
  waited (length : Duration) : R (note (.waited length)) (note (.waited length))
  now : R Action.now Action.now
  waitUntil (time : Option Nat) : R (waitUntil time) (waitUntil time)

namespace Frame

variable {mute : Bool → Bool} {request : Http.Request}
  {R : ∀ {α : Type}, Action σ α → Action σ α → Prop} (h : Frame mute request R)
include h

/-- The relation holds of the wait for a reaction. -/
theorem await (time : Nat) (reaction : Reaction) :
    R (Broker.await time reaction) (Broker.await time (reaction.muted mute)) := by
  obtain ⟨delay, cancels, answer⟩ := reaction
  refine h.bind (h.waitUntil _) fun _ => h.bind (h.cancelIf cancels) fun _ => ?_
  cases answer with
  | some answer => exact h.pure answer
  | none => exact h.bind (h.waitUntil none) fun _ => h.pure _

/-- The relation holds of an attempt. -/
theorem attempt (peers : Peers σ) :
    R (Broker.attempt peers request) (Broker.attempt (peers.muted mute) request) := by
  rw [attempt_eq, attempt_eq]
  exact h.bind h.failIfCancelled fun _ => h.bind h.send fun time =>
    h.ask peers fun reaction => h.await time reaction

/-- The relation holds of what an answer leads to, if it does where no connection was made. -/
theorem settle (url : String) (answer : Except TransportFault Http.Response)
    {onConnect onConnect₀ : String → Action σ Http.Response}
    (hconnect : ∀ detail, R (onConnect detail) (onConnect₀ detail)) :
    R (Broker.settle url answer onConnect) (Broker.settle url answer onConnect₀) := by
  unfold Broker.settle
  split
  · split
    · exact h.pure _
    · exact h.unreachable _
  · exact hconnect _
  · exact h.unreachable _

/-- The relation holds of a pause, with a length or without one. -/
theorem pause (longest : Option Duration) (length : Duration) :
    R (Broker.pause longest length) (Broker.pause longest length) := by
  unfold Broker.pause
  split
  · exact h.bind (h.waited length) fun _ => h.bind h.now fun _ => h.waitUntil _
  · exact h.pure ()

/-- **The relation holds of the loop**, however many attempts are left. -/
theorem postFrom (peers : Peers σ) (policy : RetryPolicy) (number further : Nat) :
    R (Broker.postFrom peers policy request number further)
      (Broker.postFrom (peers.muted mute) policy request number further) := by
  induction further generalizing number with
  | zero =>
      -- the last attempt, behind which a failed connection is a failure
      exact h.bind (h.attempt peers) fun answer => h.settle _ answer fun _ => h.unreachable _
  | succ further ih =>
      exact h.bind (h.attempt peers) fun answer =>
        h.settle _ answer fun _ => h.bind (h.pause _ _) fun _ => ih (number + 1)

/-- **The relation holds of a transfer.** -/
theorem post (peers : Peers σ) (policy : RetryPolicy) :
    R (Broker.post peers policy request) (Broker.post (peers.muted mute) policy request) :=
  h.postFrom peers policy 1 _

end Frame

/-- The requests and the waits of a transfer. -/
def TransferEvent (request : Http.Request) (event : Event) : Prop :=
  (∃ time, event = .transferred time request) ∨ ∃ length, event = .waited length

/-- Sending a request adds it, at the time of the clock. -/
theorem adds_send {allowed : Event → Prop} {request : Http.Request}
    (h : ∀ time, allowed (.transferred time request)) :
    Adds allowed (send request : Action σ Nat) := by
  refine fun s => ⟨[.transferred s.now request], rfl, Nat.le_refl _, rfl, ?_, ?_⟩
  · intro event hevent
    rw [List.mem_singleton.mp hevent]
    exact h s.now
  · intro sent hsent
    obtain rfl := List.mem_singleton.mp hsent
    exact ⟨Nat.le_refl _, Nat.le_refl _⟩

theorem adds_cancelIf {allowed : Event → Prop} (cancels : Bool) :
    Adds allowed (cancelIf cancels : Action σ Unit) := by
  cases cancels with
  | true => exact adds_cancel
  | false => exact adds_pure ()

/-- A transfer adds nothing but requests and waits. -/
theorem frame_adds (request : Http.Request) :
    Frame id request fun {α} (action _ : Action σ α) => Adds (TransferEvent request) action where
  pure := adds_pure
  bind := Adds.bind
  unreachable _ := adds_fail _
  failIfCancelled := adds_failIfCancelled
  send := adds_send fun time => .inl ⟨time, rfl⟩
  ask _ _ _ hnext := (adds_ask _).bind hnext
  cancelIf := adds_cancelIf
  waited length := adds_note (.inr ⟨length, rfl⟩) rfl
  now := adds_now
  waitUntil := adds_waitUntil

variable {serverUrl keyId : String}

/-- A key request that lacks an argument does nothing. -/
theorem getKey_of_blank (h : Text.blank serverUrl ∨ Text.blank keyId) (peers : Peers σ)
    (policy : RetryPolicy) :
    ∃ error, ∀ limit, getKey peers policy serverUrl keyId limit = fail error := by
  unfold getKey
  split
  · exact ⟨_, fun _ => rfl⟩
  · have hkeyId := h.resolve_left ‹_›
    exact ⟨_, fun _ => if_pos hkeyId⟩

/-- A key request with both arguments is an exchange within its limit. -/
theorem getKey_eq_within (h : ¬ (Text.blank serverUrl ∨ Text.blank keyId)) (peers : Peers σ)
    (policy : RetryPolicy) (limit : Option Duration) :
    getKey peers policy serverUrl keyId limit =
      within limit (exchange peers policy serverUrl keyId) := by
  obtain ⟨hserver, hkeyId⟩ := not_or.mp h
  rw [getKey, if_neg hserver, if_neg hkeyId]

end AttestedModel.Broker
