import Mathlib.Order.Lattice
import AttestedModel.Proofs.TransferSteps

/-!
# Calls that are stopped

A cancellation and a deadline stop a call in the same way: as soon as their moment
has come, the wait that is going on ends with their error.  A call that may be
stopped therefore goes as it would go if it could not be, until the moment of the
stop, and has done by then what the other call has done by then
(`Interruption.Follows`).

Both sides of the comparison are runs of the same code.  For a cancellation the
second one has peers whose reactions cancel nothing.  The comparison is a frame
(`frame_cuts`), so it holds of every transfer (`follows_post`).
-/

namespace AttestedModel

open AttestedModel.Action

variable {σ α β : Type}

/-- What may stop a call. -/
inductive Interruption
  | cancellation
  | deadline

namespace Interruption

/-- The error that a stopped call ends with. -/
def error : Interruption → LoadError
  | cancellation => .cancelled
  | deadline => .timeout

/-- The moment of the stop, if there is one. -/
def moment? : Interruption → Session σ → Option Nat
  | cancellation, s => s.cancelledAt
  | deadline, s => s.deadline

/-- The session in which nothing stops the call in this way. -/
def lift : Interruption → Session σ → Session σ
  | cancellation, s => { s with cancelledAt := none }
  | deadline, s => { s with deadline := none }

/-- Reactions cancel nothing where a call without cancellation is looked at. -/
def mute : Interruption → Bool → Bool
  | cancellation, _ => false
  | deadline, cancels => cancels

variable (stop : Interruption) {r s t u v : Session σ}

/-- The moment of the stop is not past. -/
def Ahead (s : Session σ) : Prop :=
  ∀ moment, stop.moment? s = some moment → s.now ≤ moment

/-- From `s` a run was stopped in `t`, at its moment.  The run that led to `u` has the same events
up to then, and sends nothing before that moment that the other one did not send. -/
structure Cut (s t u : Session σ) : Prop where
  moment_eq : stop.moment? t = some t.now
  events : ∃ new more, t.events = s.events ++ new ∧ u.events = s.events ++ (new ++ more) ∧
    (∀ sent ∈ transfers new, sent.1 ≤ t.now) ∧ ∀ sent ∈ transfers more, t.now ≤ sent.1

/-- How a run from a session that may be stopped goes, compared with the run that may not: it ends
in the same way, or it is cut, and the other one does not end before. -/
inductive Follows (s : Session σ) : Outcome α × Session σ → Outcome α × Session σ → Prop
  | stands {outcome : Outcome α} {t : Session σ} (ahead : stop.Ahead t)
      (ends : outcome = .never → stop.moment? t = none) :
      Follows s (outcome, t) (outcome, stop.lift t)
  | cut {outcome : Outcome α} {t u : Session σ} (cut : stop.Cut s t u)
      (outlasts : outcome = .never ∨ t.now ≤ u.now) :
      Follows s (.failed stop.error, t) (outcome, u)

/-- A call follows another one from every session whose stop is not past. -/
def Cuts (action action₀ : Action σ α) : Prop :=
  ∀ s, stop.Ahead s → stop.Follows s (action s) (action₀ (stop.lift s))

variable {stop}

/-- A run may be cut before anything has happened. -/
theorem Cut.at_once (hmoment : stop.moment? t = some t.now) (ht : t.events = s.events)
    (hu : u.events = s.events) : stop.Cut s t u where
  moment_eq := hmoment
  events := ⟨[], [], by simp [ht], by simp [hu], nofun, nofun⟩

/-- The requests of a cut run are the first ones of the other run, up to the moment of the stop. -/
theorem Cut.transfers_since (h : stop.Cut s t u) :
    ∃ more, transfers (s.since u) = transfers (s.since t) ++ more ∧
      (∀ sent ∈ transfers (s.since t), sent.1 ≤ t.now) ∧ ∀ sent ∈ more, t.now ≤ sent.1 := by
  obtain ⟨new, more, ht, hu, hearly, hlate⟩ := h.events
  rw [Session.since_of_append ht, Session.since_of_append hu, transfers_append]
  exact ⟨transfers more, rfl, hearly, hlate⟩

/-- What came before a cut run is common to both runs. -/
theorem Cut.prepend {allowed : Event → Prop} {before : List Event} (h : stop.Cut s t u)
    (hfirst : Extends allowed r s before) (hnow : s.now ≤ t.now) : stop.Cut r t u where
  moment_eq := h.moment_eq
  events := by
    obtain ⟨new, more, ht, hu, hearly, hlate⟩ := h.events
    refine ⟨before ++ new, more, ?_, ?_, ?_, hlate⟩
    · rw [ht, hfirst.events_eq, List.append_assoc]
    · rw [hu, hfirst.events_eq, List.append_assoc, List.append_assoc]
    · intro sent hsent
      rw [transfers_append, List.mem_append] at hsent
      rcases hsent with hsent | hsent
      · exact (hfirst.stamped sent hsent).2.trans hnow
      · exact hearly sent hsent

/-- The run that is not cut may go on behind the cut. -/
theorem Cut.append {allowed : Event → Prop} {behind : List Event} (h : stop.Cut s t u)
    (hnow : t.now ≤ u.now) (hrest : Extends allowed u v behind) : stop.Cut s t v where
  moment_eq := h.moment_eq
  events := by
    obtain ⟨new, more, ht, hu, hearly, hlate⟩ := h.events
    refine ⟨new, more ++ behind, ht, ?_, hearly, ?_⟩
    · rw [hrest.events_eq, hu, List.append_assoc, List.append_assoc]
    · intro sent hsent
      rw [transfers_append, List.mem_append] at hsent
      rcases hsent with hsent | hsent
      · exact hlate sent hsent
      · exact hnow.trans (hrest.stamped sent hsent).1

/-- A common beginning changes nothing about how one run follows the other. -/
theorem Follows.prepend {allowed : Event → Prop} {before : List Event}
    {run run₀ : Outcome α × Session σ} (h : stop.Follows s run run₀)
    (hfirst : Extends allowed r s before) (hnow : s.now ≤ run.2.now) : stop.Follows r run run₀ := by
  cases h with
  | stands ahead ends => exact .stands ahead ends
  | cut cut outlasts => exact .cut (cut.prepend hfirst hnow) outlasts

/-- A call that is compared with another one, where both only add to the events. -/
structure Paired (stop : Interruption) (action action₀ : Action σ α) : Prop where
  cuts : stop.Cuts action action₀
  adds : Adds (fun _ => True) action
  adds_free : Adds (fun _ => True) action₀

/-- A chain follows a chain if its first step and the rest do.  Behind a cut only the run that is
not cut goes on. -/
theorem Paired.cuts_bind {action action₀ : Action σ α} {next next₀ : α → Action σ β}
    (h : Paired stop action action₀) (hnext : ∀ a, Paired stop (next a) (next₀ a)) :
    stop.Cuts (action >>= next) (action₀ >>= next₀) := by
  intro s hs
  have hfirst := h.cuts s hs
  obtain ⟨new, hnew⟩ := h.adds s
  simp only [Bind.bind]
  generalize action s = run at hfirst hnew ⊢
  generalize action₀ (stop.lift s) = run₀ at hfirst ⊢
  cases hfirst with
  | @stands outcome t ahead ends =>
      cases outcome with
      | failed e => exact .stands ahead nofun
      | never => exact .stands ahead fun _ => ends rfl
      | done a =>
          obtain ⟨more, hmore⟩ := (hnext a).adds t
          exact ((hnext a).cuts t ahead).prepend hnew hmore.now_le
  | @cut outcome t u cut outlasts =>
      cases outcome with
      | failed e => exact .cut cut (outlasts.imp_left nofun)
      | never => exact .cut cut (.inl rfl)
      | done a =>
          have hnow : t.now ≤ u.now := outlasts.resolve_left nofun
          obtain ⟨more, hmore⟩ := (hnext a).adds_free u
          exact .cut (cut.append hnow hmore) (.inr (hnow.trans hmore.now_le))

/-- Pairs are chained as calls are. -/
theorem Paired.bind {action action₀ : Action σ α} {next next₀ : α → Action σ β}
    (h : Paired stop action action₀) (hnext : ∀ a, Paired stop (next a) (next₀ a)) :
    Paired stop (action >>= next) (action₀ >>= next₀) where
  cuts := h.cuts_bind hnext
  adds := h.adds.bind fun a => (hnext a).adds
  adds_free := h.adds_free.bind fun a => (hnext a).adds_free

/-- A step that takes no time and does the same, whether the call may be stopped or not. -/
theorem cuts_of_step {action : Action σ α}
    (h : ∀ s, ∃ a t, action s = (.done a, t) ∧ action (stop.lift s) = (.done a, stop.lift t) ∧
      stop.moment? t = stop.moment? s ∧ t.now = s.now) : stop.Cuts action action := by
  intro s hs
  obtain ⟨a, t, hreal, hfree, hmoment, hnow⟩ := h s
  rw [hreal, hfree]
  refine .stands (fun moment hsome => ?_) nofun
  rw [hnow]
  exact hs moment (hmoment.symm.trans hsome)

/-- A call that is compared with itself adds on both sides what it adds. -/
theorem Paired.of_cuts {action : Action σ α} (h : stop.Cuts action action)
    (hadds : Adds (fun _ => True) action) : Paired stop action action :=
  ⟨h, hadds, hadds⟩

variable (stop)

theorem paired_pure (a : α) : Paired stop (pure a : Action σ α) (pure a) :=
  .of_cuts (fun _ hs => .stands hs nofun) (adds_pure a)

/-- A failure is the same with and without a stop. -/
theorem paired_fail (e : LoadError) : Paired stop (fail e : Action σ α) (fail e) :=
  .of_cuts (fun _ hs => .stands hs nofun) (adds_fail e)

/-- An end that a result prescribes is the same with and without a stop. -/
theorem paired_ofExcept (result : Except LoadError α) :
    Paired stop (ofExcept result : Action σ α) (ofExcept result) := by
  cases result with
  | error e => exact stop.paired_fail e
  | ok a => exact stop.paired_pure a

theorem paired_now : Paired stop (now : Action σ Nat) now := by
  refine .of_cuts ?_ adds_now
  cases stop <;> exact cuts_of_step fun s => ⟨_, _, rfl, rfl, rfl, rfl⟩

/-- An event that is no request may be noted at any time. -/
theorem paired_note {event : Event} (h : transfers [event] = []) :
    Paired stop (note event : Action σ Unit) (note event) := by
  refine .of_cuts ?_ (adds_note trivial h)
  cases stop <;> exact cuts_of_step fun s => ⟨_, _, rfl, rfl, rfl, rfl⟩

/-- The world answers at once, and does not know of the stop. -/
theorem paired_ask (answer : σ → α × σ) : Paired stop (ask answer) (ask answer) := by
  refine .of_cuts ?_ (adds_ask answer)
  cases stop <;> exact cuts_of_step fun s => ⟨_, _, rfl, rfl, rfl, rfl⟩

/-- A call that has not been cancelled before is cancelled at this moment, or not yet. -/
theorem paired_failIfCancelled :
    Paired stop (failIfCancelled : Action σ Unit) failIfCancelled := by
  refine .of_cuts (fun s hs => ?_) adds_failIfCancelled
  by_cases hcancelled : s.Cancelled
  · have hreal : failIfCancelled s = (.failed .cancelled, s) := if_pos hcancelled
    rw [hreal]
    cases stop with
    | cancellation =>
        obtain ⟨moment, hmoment, hpast⟩ := Session.cancelled_iff.mp hcancelled
        obtain rfl : s.now = moment := le_antisymm (hs moment hmoment) hpast
        exact .cut (.at_once hmoment rfl rfl) (.inr le_rfl)
    | deadline =>
        have hfree : failIfCancelled (deadline.lift s) = (.failed .cancelled, deadline.lift s) :=
          if_pos hcancelled
        rw [hfree]
        exact .stands hs nofun
  · have hreal : failIfCancelled s = (.done (), s) := if_neg hcancelled
    have hfree : failIfCancelled (stop.lift s) = (.done (), stop.lift s) := by
      cases stop with
      | cancellation => rfl
      | deadline => exact if_neg hcancelled
    rw [hreal, hfree]
    exact .stands hs nofun

/-- A call whose time was not up before runs into its deadline at this moment, or not yet. -/
theorem paired_failIfExpired :
    Paired .deadline (failIfExpired : Action σ Unit) failIfExpired := by
  refine .of_cuts (fun s hs => ?_) adds_failIfExpired
  have hfree : failIfExpired (deadline.lift s) = (.done (), deadline.lift s) := rfl
  rw [hfree]
  by_cases hexpired : s.deadline.any (· ≤ s.now)
  · have hreal : failIfExpired s = (.failed .timeout, s) := if_pos hexpired
    obtain ⟨moment, hmoment, hpast⟩ := any_le_iff.mp hexpired
    obtain rfl : s.now = moment := le_antisymm (hs moment hmoment) hpast
    rw [hreal]
    exact .cut (.at_once hmoment rfl rfl) (.inr le_rfl)
  · have hreal : failIfExpired s = (.done (), s) := if_neg hexpired
    rw [hreal]
    exact .stands hs nofun

/-- The moment of the stop does not depend on the clock. -/
theorem moment?_at (s : Session σ) (now : Nat) :
    stop.moment? { s with now } = stop.moment? s := by
  cases stop <;> rfl

/-- Taking the stop away and setting the clock do not get in each other's way. -/
theorem lift_at (s : Session σ) (now : Nat) :
    stop.lift { s with now } = { stop.lift s with now } := by
  cases stop <;> rfl

theorem lift_events (s : Session σ) : (stop.lift s).events = s.events := by
  cases stop <;> rfl

/-- A wait ends as it would if nothing stopped it, or before that at the moment of the stop. -/
theorem follows_endAt {real free : Option Moment} (hfree : ∀ m, free = some m → m.2 ≠ .never)
    (hnone : stop.moment? s = none → real = free)
    (hsome : ∀ moment, stop.moment? s = some moment →
      (∃ m, free = some m ∧ m.1 ≤ moment ∧ real = free) ∨
      ((∀ m, free = some m → moment ≤ m.1) ∧ real = some (moment, .failed stop.error))) :
    stop.Follows s (endAt s real) (endAt (stop.lift s) free) := by
  -- a wait that is not stopped ends as it would
  have hstands : ∀ m, free = some m → (∀ moment, stop.moment? s = some moment → m.1 ≤ moment) →
      real = free → stop.Follows s (endAt s real) (endAt (stop.lift s) free) := by
    rintro ⟨time, outcome⟩ hm hahead rfl
    subst hm
    have h : stop.Follows s (outcome, { s with now := time }) (outcome, stop.lift _) :=
      .stands (fun moment hmoment => hahead moment ((stop.moment?_at s time).symm.trans hmoment))
        fun hnever => absurd hnever (hfree _ rfl)
    rwa [lift_at] at h
  cases hmoment : stop.moment? s with
  | none =>
      have hreal := hnone hmoment
      cases hm : free with
      | some m =>
          rw [← hm]
          exact hstands m hm (fun moment hsome => absurd (hmoment.symm.trans hsome) nofun) hreal
      | none =>
          rw [hreal, hm]
          exact .stands (fun moment hsome => absurd (hmoment.symm.trans hsome) nofun)
            fun _ => hmoment
  | some moment =>
      rcases hsome moment hmoment with ⟨m, hm, hle, hreal⟩ | ⟨hfirst, hreal⟩
      · refine hstands m hm (fun moment' hsome => ?_) hreal
        obtain rfl := Option.some.inj (hmoment.symm.trans hsome)
        exact hle
      · rw [hreal]
        have hcut : ∀ u : Session σ, u.events = s.events → stop.Cut s { s with now := moment } u :=
          fun u hu => .at_once ((stop.moment?_at s moment).trans hmoment) rfl hu
        cases hm : free with
        | none => exact .cut (hcut _ (stop.lift_events s)) (.inl rfl)
        | some m => exact .cut (hcut _ (stop.lift_events s)) (.inr (hfirst m hm))

/-- A moment has the outcome that it was made with. -/
theorem snd_of_momentOf {outcome : Outcome Unit} {now : Nat} {time : Option Nat} :
    ∀ m, momentOf outcome now time = some m → m.2 = outcome := by
  intro m hm
  obtain ⟨time, -, rfl⟩ := Option.map_eq_some_iff.mp hm
  rfl

/-- A wait is stopped by a cancellation that is not behind what else may end it, or by a deadline
that is before all of that. -/
theorem paired_waitUntil (time : Option Nat) :
    Paired stop (waitUntil time : Action σ Unit) (waitUntil time) := by
  refine .of_cuts (fun s hs => ?_) (adds_waitUntil time)
  have hnever : ∀ outcome ≠ Outcome.never, ∀ time m,
      momentOf outcome s.now time = some m → m.2 ≠ .never :=
    fun outcome houtcome time m hm => snd_of_momentOf m hm ▸ houtcome
  rw [waitUntil_eq, waitUntil_eq]
  cases stop with
  | cancellation =>
      have hends := earlier_of_both (hnever (.done ()) nofun time)
        (hnever (.failed .timeout) nofun s.deadline)
      simp only [lift, momentOf_none, earlier_none_left]
      refine cancellation.follows_endAt hends (fun hnone => ?_) fun moment hmoment => ?_
      · rw [show s.cancelledAt = none from hnone, momentOf_none, earlier_none_left]
      · rw [show s.cancelledAt = some moment from hmoment, momentOf_of_le (hs moment hmoment)]
        rcases earlier_some_left (moment, .failed .cancelled) _ with ⟨m, hm, hlt, heq⟩ | hfirst
        · exact .inl ⟨m, hm, hlt.le, heq⟩
        · exact .inr hfirst
  | deadline =>
      have hends := earlier_of_both (hnever (.failed .cancelled) nofun s.cancelledAt)
        (hnever (.done ()) nofun time)
      simp only [lift, momentOf_none, earlier_none_right, ← earlier_assoc]
      refine deadline.follows_endAt hends (fun hnone => ?_) fun moment hmoment => ?_
      · rw [show s.deadline = none from hnone, momentOf_none, earlier_none_right]
      · rw [show s.deadline = some moment from hmoment, momentOf_of_le (hs moment hmoment)]
        rcases earlier_some_right _ (moment, .failed .timeout) with hother | ⟨hfirst, heq⟩
        · exact .inl hother
        · exact .inr ⟨fun m hm => (hfirst m hm).le, heq⟩

/-- A request is sent at a time that is not behind the moment of the stop. -/
theorem paired_send (request : Http.Request) :
    Paired stop (Broker.send request : Action σ Nat) (Broker.send request) := by
  refine .of_cuts ?_ (Broker.adds_send fun _ => trivial)
  cases stop <;> exact cuts_of_step fun s => ⟨_, _, rfl, rfl, rfl, rfl⟩

/-- What a reaction cancels, it cancels now, which is not before the moment of the stop. -/
theorem paired_cancelIf (cancels : Bool) :
    Paired stop (Broker.cancelIf cancels : Action σ Unit)
      (Broker.cancelIf (stop.mute cancels)) := by
  cases stop with
  | deadline =>
      refine .of_cuts ?_ (Broker.adds_cancelIf cancels)
      cases cancels <;> exact cuts_of_step fun s => ⟨_, _, rfl, rfl, rfl, rfl⟩
  | cancellation =>
      refine ⟨fun s hs => ?_, Broker.adds_cancelIf _, Broker.adds_cancelIf _⟩
      cases cancels with
      | false => exact .stands hs nofun
      | true =>
          have hahead : cancellation.Ahead
              { s with cancelledAt := some (min s.now (s.cancelledAt.getD s.now)) } := by
            rintro moment ⟨⟩
            cases hcancelled : s.cancelledAt with
            | none => simp
            | some earlier => simpa using hs earlier hcancelled
          exact .stands hahead nofun

/-- The world answers both calls in the same way, but for what it cancels. -/
theorem Paired.ask_bind {stop : Interruption} (peers : Broker.Peers σ) (request : Http.Request)
    {next next₀ : Broker.Reaction → Action σ α}
    (hnext : ∀ reaction, Paired stop (next reaction) (next₀ (reaction.muted stop.mute))) :
    Paired stop (ask (peers.post request) >>= next)
      (ask ((peers.muted stop.mute).post request) >>= next₀) where
  cuts s hs := by
    cases hanswer : peers.post request s.world with
    | mk reaction world =>
        have hreal : (ask (peers.post request) >>= next) s = next reaction { s with world } := by
          simp only [Action.ask_bind, hanswer]
        have hfree : (ask ((peers.muted stop.mute).post request) >>= next₀) (stop.lift s) =
            next₀ (reaction.muted stop.mute) (stop.lift { s with world }) := by
          cases stop <;> simp only [Action.ask_bind, Broker.Peers.muted, lift, hanswer]
        have hahead : stop.Ahead { s with world } := by
          cases stop <;> exact hs
        have hasked : Extends (fun _ => True) s { s with world } [] := extends_of_eq rfl rfl rfl
        obtain ⟨new, hnew⟩ := (hnext reaction).adds { s with world }
        rw [hreal, hfree]
        exact ((hnext reaction).cuts _ hahead).prepend hasked hnew.now_le
  adds := (adds_ask _).bind fun reaction => (hnext reaction).adds
  adds_free s := by
    obtain ⟨new, hnew⟩ := (hnext (peers.post request s.world).1).adds_free
      { s with world := (peers.post request s.world).2 }
    exact ⟨new, hnew.events_eq, hnew.now_le, hnew.deadline_eq, hnew.allowed, hnew.stamped⟩

end Interruption

namespace Broker

open Interruption

/-- The comparison passes from the steps of a transfer to the transfer. -/
theorem frame_cuts (stop : Interruption) (request : Http.Request) :
    @Frame σ stop.mute request fun action action₀ => Paired stop action action₀ where
  pure := stop.paired_pure
  bind h hnext := h.bind hnext
  unreachable _ := stop.paired_fail _
  failIfCancelled := stop.paired_failIfCancelled
  send := stop.paired_send request
  ask peers _ _ hnext := .ask_bind peers request hnext
  cancelIf := stop.paired_cancelIf
  waited _ := stop.paired_note rfl
  now := stop.paired_now
  waitUntil := stop.paired_waitUntil

/-- **A transfer that may be stopped follows the same transfer that may not.** -/
theorem follows_post (stop : Interruption) (peers : Peers σ) (policy : RetryPolicy)
    (request : Http.Request) {s : Session σ} (hs : stop.Ahead s) :
    stop.Follows s (post peers policy request s)
      (post (peers.muted stop.mute) policy request (stop.lift s)) :=
  ((frame_cuts stop request).post peers policy).cuts s hs

end Broker

end AttestedModel
