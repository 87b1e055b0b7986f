import Mathlib.Order.Lattice
import AttestedModel.Proofs.TransferSteps

/-!
# How waits, attempts and pauses end

Each step of a transfer ends in one of a few ways.  What each of them says of the
cancellation of the call is listed once: a wait ends as cancelled exactly if the
call has been cancelled by its end (`WaitEnds`), and so do attempts and pauses,
which are built from waits (`AttemptEnds`, `PauseEnds`).  A run of a transfer is
taken apart by these lists and never by the definitions.
-/

namespace AttestedModel

open AttestedModel.Action

variable {σ : Type}

namespace Action

/-- How a wait for a time ends: the time is reached, or the call is cancelled no later than that,
or its time is up before, or nothing at all happens. -/
inductive WaitEnds (time : Option Nat) (s : Session σ) : Outcome Unit × Session σ → Prop
  | reached {end_ : Nat} (time_eq : time = some end_)
      (stands : ¬ { s with now := max end_ s.now }.Cancelled) :
      WaitEnds time s (.done (), { s with now := max end_ s.now })
  | cancelled {now : Nat} (now_le : s.now ≤ now) (cancelled : { s with now }.Cancelled) :
      WaitEnds time s (.failed .cancelled, { s with now })
  | expired {now : Nat} (now_le : s.now ≤ now) (stands : ¬ { s with now }.Cancelled)
      (early : ∀ end_, time = some end_ → now < max end_ s.now) :
      WaitEnds time s (.failed .timeout, { s with now })
  | never (stands : ¬ s.Cancelled) (time_eq : time = none) : WaitEnds time s (.never, s)

/-- A wait that is not cancelled ends at its time or at the deadline, whichever is first. -/
theorem endAt_of_not_cancelled (time : Option Nat) (s : Session σ) {first : Option Moment}
    (hfirst : first = earlier (momentOf (.done ()) s.now time)
      (momentOf (.failed .timeout) s.now s.deadline))
    (hstands : ∀ m, first = some m → ¬ { s with now := m.1 }.Cancelled)
    (hnever : first = none → ¬ s.Cancelled) : WaitEnds time s (endAt s first) := by
  cases hdeadline : s.deadline with
  | none =>
      rw [hdeadline, momentOf_none, earlier_none_right] at hfirst
      cases time with
      | none => exact hfirst ▸ .never (hnever hfirst) rfl
      | some end_ => exact hfirst ▸ .reached rfl (hstands _ hfirst)
  | some deadline =>
      rw [hdeadline] at hfirst
      rcases earlier_some_right (momentOf (.done ()) s.now time)
          (max deadline s.now, .failed .timeout) with ⟨m, hm, -, heq⟩ | ⟨hlate, heq⟩
      · obtain ⟨end_, rfl, rfl⟩ := Option.map_eq_some_iff.mp hm
        have hreached := hfirst.trans (heq.trans hm)
        exact hreached ▸ .reached rfl (hstands _ hreached)
      · have hexpired := hfirst.trans heq
        refine hexpired ▸ .expired (le_max_right ..) (hstands _ hexpired) fun end_ htime => ?_
        exact hlate (max end_ s.now, .done ()) (by rw [htime]; rfl)

/-- A wait ends in one of the four ways, and as cancelled exactly if the call is cancelled then. -/
theorem waitUntil_ends (time : Option Nat) (s : Session σ) :
    WaitEnds time s (waitUntil time s) := by
  rw [waitUntil_eq]
  generalize hfirst : earlier (momentOf (.done ()) s.now time) _ = first
  have hlate : ∀ m, first = some m → s.now ≤ m.1 :=
    hfirst ▸ earlier_of_both (fun m => le_of_momentOf m) fun m => le_of_momentOf m
  have hends := endAt_of_not_cancelled time s hfirst.symm
  cases hcancelled : s.cancelledAt with
  | none =>
      have hstands : ∀ now, ¬ { s with now }.Cancelled := by
        simp [Session.cancelled_iff, hcancelled]
      rw [momentOf_none, earlier_none_left]
      exact hends (fun m _ => hstands m.1) fun _ => hstands s.now
  | some moment =>
      rcases earlier_some_left (max moment s.now, .failed .cancelled) first with
        ⟨m, rfl, hlt, heq⟩ | ⟨-, heq⟩
      · have hstands : ¬ { s with now := m.1 }.Cancelled := by
          have hlt' : m.1 < max moment s.now := hlt
          have hle := hlate m rfl
          simp only [Session.cancelled_iff, hcancelled, Option.some.injEq, exists_eq_left']
          omega
        rw [show earlier (momentOf _ s.now (some moment)) (some m) = some m from heq]
        exact hends (fun m' hm' => Option.some.inj hm' ▸ hstands) nofun
      · rw [show earlier (momentOf _ s.now (some moment)) first = some _ from heq]
        refine .cancelled (le_max_right ..) ?_
        simp [Session.cancelled_iff, hcancelled]

end Action

namespace Broker

/-- Time has passed, if at all, without a request and without a cancellation by a peer. -/
structure Quiet (s t : Session σ) : Prop where
  world_eq : t.world = s.world
  cancelledAt_eq : t.cancelledAt = s.cancelledAt
  now_le : s.now ≤ t.now
  events_eq : ∃ waits, t.events = s.events ++ waits ∧ transfers waits = []

variable {s t u v : Session σ} {request : Http.Request} {reaction : Reaction} {world : σ}

theorem Quiet.refl (s : Session σ) : Quiet s s :=
  ⟨rfl, rfl, le_rfl, [], (List.append_nil _).symm, rfl⟩

/-- A cancelled call stays cancelled. -/
theorem Quiet.cancelled (h : Quiet s t) (hs : s.Cancelled) : t.Cancelled := by
  obtain ⟨moment, hmoment, hpast⟩ := Session.cancelled_iff.mp hs
  exact Session.cancelled_iff.mpr ⟨moment, h.cancelledAt_eq.trans hmoment, hpast.trans h.now_le⟩

/-- When a reaction comes to a request that is sent now. -/
def Reaction.due (reaction : Reaction) (s : Session σ) : Nat :=
  s.now + reaction.delay.milliseconds

/-- A request was sent, and what it brought about is all that has happened since. -/
structure Attempted (request : Http.Request) (reaction : Reaction) (world : σ) (s t : Session σ) :
    Prop where
  stands : ¬ s.Cancelled
  world_eq : t.world = world
  now_le : s.now ≤ t.now
  events_eq : ∃ waits, t.events = s.events ++ .transferred s.now request :: waits ∧
    transfers waits = []
  /-- A reaction cancels before any other cancellation, or not at all. -/
  cancelledAt_eq : t.cancelledAt = s.cancelledAt ∨
    reaction.cancels ∧ t.cancelledAt = some (reaction.due s) ∧
      ∀ moment, s.cancelledAt = some moment → reaction.due s < moment
  cancelled : reaction.cancels → reaction.due s ≤ t.now → t.Cancelled

/-- How an attempt ends.  It ends as cancelled exactly if the call has been cancelled by then, or it
is answered by a reaction that may cancel the call itself. -/
inductive AttemptEnds (request : Http.Request) (reaction : Reaction) (world : σ) (s : Session σ) :
    Outcome (Except TransportFault Http.Response) × Session σ → Prop
  | refused (cancelled : s.Cancelled) : AttemptEnds request reaction world s (.failed .cancelled, s)
  | answered {t : Session σ} {answer : Except TransportFault Http.Response}
      (attempted : Attempted request reaction world s t) (answer_eq : reaction.answer = some answer)
      (cancelled_iff : t.Cancelled ↔ reaction.cancels)
      (cancelled_at : reaction.cancels → t.cancelledAt = some (reaction.due s)) :
      AttemptEnds request reaction world s (.done answer, t)
  | failed {t : Session σ} {error : LoadError} (attempted : Attempted request reaction world s t)
      (cancelled_iff : error = .cancelled ↔ t.Cancelled) :
      AttemptEnds request reaction world s (.failed error, t)
  | never {t : Session σ} (attempted : Attempted request reaction world s t)
      (stands : ¬ t.Cancelled) : AttemptEnds request reaction world s (.never, t)

/-- A reaction cancels at its own moment, if no other cancellation was before. -/
theorem cancelIf_apply (cancels : Bool) (h : ¬ s.Cancelled) :
    ∃ t, cancelIf cancels s = (.done (), t) ∧ t.world = s.world ∧ t.now = s.now ∧
      t.events = s.events ∧ t.cancelledAt = (if cancels then some s.now else s.cancelledAt) ∧
      (t.Cancelled ↔ cancels) := by
  cases cancels with
  | false => exact ⟨s, rfl, rfl, rfl, rfl, rfl, iff_of_false h nofun⟩
  | true =>
      have hnow : min s.now (s.cancelledAt.getD s.now) = s.now := by
        cases hcancelled : s.cancelledAt with
        | none => simp
        | some moment => simpa using (Session.lt_of_not_cancelled h hcancelled).le
      have hcancelledAt : some (min s.now (s.cancelledAt.getD s.now)) = some s.now := by rw [hnow]
      exact ⟨_, rfl, rfl, rfl, rfl, hcancelledAt,
        iff_of_true (Session.cancelled_iff.mpr ⟨s.now, hcancelledAt, le_rfl⟩) rfl⟩

/-- The session in which a request has just been sent and the world has been asked. -/
def afterSending (request : Http.Request) (world : σ) (s : Session σ) : Session σ :=
  { s with world, events := s.events ++ [.transferred s.now request] }

/-- An attempt has been made if nothing but time has passed since its request. -/
theorem Attempted.of_quiet (hs : ¬ s.Cancelled) (hquiet : Quiet (afterSending request world s) t)
    (hcancelled : reaction.cancels → reaction.due s ≤ t.now → t.Cancelled) :
    Attempted request reaction world s t where
  stands := hs
  world_eq := hquiet.world_eq
  now_le := hquiet.now_le
  events_eq := by
    obtain ⟨waits, hwaits, hnone⟩ := hquiet.events_eq
    exact ⟨waits, by rw [hwaits, afterSending, List.append_assoc, List.singleton_append], hnone⟩
  cancelledAt_eq := .inl hquiet.cancelledAt_eq
  cancelled := hcancelled

/-- Time may pass once the reaction has come. -/
theorem Attempted.quiet (h : Attempted request reaction world s t)
    (hcancelled : reaction.cancels → t.Cancelled) (hquiet : Quiet t u) :
    Attempted request reaction world s u where
  stands := h.stands
  world_eq := hquiet.world_eq.trans h.world_eq
  now_le := h.now_le.trans hquiet.now_le
  events_eq := by
    obtain ⟨waits, hwaits, hnone⟩ := h.events_eq
    obtain ⟨more, hmore, hnone'⟩ := hquiet.events_eq
    refine ⟨waits ++ more, ?_, ?_⟩
    · rw [hmore, hwaits, List.append_assoc, List.cons_append]
    · rw [transfers_append, hnone, hnone', List.nil_append]
  cancelledAt_eq := by
    rw [hquiet.cancelledAt_eq]
    exact h.cancelledAt_eq
  cancelled hcancels _ := hquiet.cancelled (hcancelled hcancels)

/-- Time may pass quietly. -/
theorem quiet_at {now : Nat} (h : s.now ≤ now) : Quiet s { s with now } :=
  ⟨rfl, rfl, h, [], (List.append_nil _).symm, rfl⟩

/-- An attempt whose reaction is there ends in one of its ways. -/
theorem answerOf_ends (h : Attempted request reaction world s t)
    (hcancelled : t.Cancelled ↔ reaction.cancels)
    (hmoment : reaction.cancels → t.cancelledAt = some (reaction.due s)) :
    AttemptEnds request reaction world s (answerOf reaction t) := by
  cases hanswer : reaction.answer with
  | some answer =>
      simp only [answerOf, hanswer]
      exact .answered h hanswer hcancelled hmoment
  | none =>
      -- without an answer only a cancellation or the deadline ends the attempt
      simp only [answerOf, hanswer, Bind.bind]
      have hends := waitUntil_ends none t
      generalize waitUntil none t = run at hends ⊢
      cases hends with
      | reached time_eq => exact absurd time_eq nofun
      | cancelled now_le cancelled =>
          exact .failed (h.quiet hcancelled.mpr (quiet_at now_le)) (iff_of_true rfl cancelled)
      | expired now_le stands =>
          exact .failed (h.quiet hcancelled.mpr (quiet_at now_le)) (iff_of_false nofun stands)
      | never stands => exact .never h stands

/-- The wait for a reaction ends as an attempt does. -/
theorem await_ends (h : ¬ s.Cancelled) :
    AttemptEnds request reaction world s
      (await s.now reaction (afterSending request world s)) := by
  have hlate : max (reaction.due s) s.now = reaction.due s := max_eq_left (Nat.le_add_right ..)
  have hends : WaitEnds (some (reaction.due s)) (afterSending request world s)
      (waitUntil (some (s.now + reaction.delay.milliseconds)) (afterSending request world s)) :=
    waitUntil_ends ..
  simp only [await, Bind.bind]
  generalize waitUntil _ (afterSending request world s) = run at hends ⊢
  cases hends with
  | @reached end_ time_eq stands =>
      obtain rfl := Option.some.inj time_eq
      obtain ⟨t, ht, hworld, hnow, hevents, hcancelledAt, hcancelled⟩ :=
        cancelIf_apply reaction.cancels stands
      have hdue : t.now = reaction.due s := hnow.trans hlate
      rw [← hnow, hdue] at hcancelledAt
      have hcancels : reaction.cancels → t.cancelledAt = some (reaction.due s) :=
        fun hcancels => by rw [hcancelledAt, if_pos hcancels]
      simp only [ht]
      refine answerOf_ends ?_ hcancelled hcancels
      exact {
        stands := h
        world_eq := hworld
        now_le := by
          rw [hdue]
          exact Nat.le_add_right ..
        events_eq := ⟨[], hevents, rfl⟩
        cancelledAt_eq := by
          by_cases hself : reaction.cancels
          · refine .inr ⟨hself, hcancels hself, fun moment hmoment => ?_⟩
            exact hlate ▸ Session.lt_of_not_cancelled stands hmoment
          · rw [if_neg hself] at hcancelledAt
            exact .inl hcancelledAt
        cancelled := fun hself _ => hcancelled.mpr hself }
  | cancelled now_le cancelled =>
      exact .failed (.of_quiet h (quiet_at now_le) fun _ _ => cancelled) (iff_of_true rfl cancelled)
  | @expired now now_le stands early =>
      have hearly : now < reaction.due s := hlate ▸ early _ rfl
      have hattempted : Attempted request reaction world s
          { afterSending request world s with now } :=
        .of_quiet h (quiet_at now_le) fun _ hdue => absurd hearly (Nat.not_lt.mpr hdue)
      exact .failed hattempted (iff_of_false nofun stands)
  | never _ time_eq => exact absurd time_eq nofun

/-- A cancelled call begins no attempt. -/
theorem attempt_of_cancelled {peers : Peers σ} (hs : s.Cancelled) :
    attempt peers request s = (.failed .cancelled, s) := by
  have hrefused : failIfCancelled s = (.failed .cancelled, s) := if_pos hs
  simp only [attempt_eq, Bind.bind, hrefused]

/-- In any other call the request is sent, and then only the reaction is waited for. -/
theorem attempt_of_not_cancelled {peers : Peers σ} (hs : ¬ s.Cancelled) :
    attempt peers request s = await s.now (peers.post request s.world).1
      (afterSending request (peers.post request s.world).2 s) := by
  have hpassed : failIfCancelled s = (.done (), s) := if_neg hs
  rw [attempt_eq, bind_of_done _ hpassed]
  rfl

/-- An attempt ends in one of its ways, whatever has happened before. -/
theorem attempt_ends {peers : Peers σ} (hpost : peers.post request s.world = (reaction, world)) :
    AttemptEnds request reaction world s (attempt peers request s) := by
  by_cases hs : s.Cancelled
  · rw [attempt_of_cancelled hs]
    exact .refused hs
  · rw [attempt_of_not_cancelled hs, hpost]
    exact await_ends hs

/-- How a pause between two attempts ends.  It is passed in a cancelled call only if it has no
length. -/
inductive PauseEnds (s : Session σ) : Outcome Unit × Session σ → Prop
  | passed {t : Session σ} (quiet : Quiet s t) (cancelled_iff : t.Cancelled ↔ s.Cancelled) :
      PauseEnds s (.done (), t)
  | failed {t : Session σ} {error : LoadError} (quiet : Quiet s t)
      (cancelled_iff : error = .cancelled ↔ t.Cancelled) : PauseEnds s (.failed error, t)

/-- A pause is passed or fails, but it does end. -/
theorem pause_ends (longest : Option Duration) (length : Duration) (s : Session σ) :
    PauseEnds s (pause longest length s) := by
  unfold pause
  split
  · have hquiet : ∀ now, s.now ≤ now →
        Quiet s { s with events := s.events ++ [.waited length], now } :=
      fun now hnow => ⟨rfl, rfl, hnow, [.waited length], rfl, rfl⟩
    simp only [note_bind, now_bind]
    have hends := waitUntil_ends (some (s.now + (length.upTo longest).milliseconds))
      { s with events := s.events ++ [.waited length] }
    generalize waitUntil _ _ = run at hends ⊢
    cases hends with
    | @reached end_ time_eq stands =>
        have hpassed := hquiet (max end_ s.now) (le_max_right ..)
        exact .passed hpassed (iff_of_false stands fun hs => stands (hpassed.cancelled hs))
    | cancelled now_le cancelled => exact .failed (hquiet _ now_le) (iff_of_true rfl cancelled)
    | expired now_le stands => exact .failed (hquiet _ now_le) (iff_of_false nofun stands)
    | never _ time_eq => exact absurd time_eq nofun
  · exact .passed (.refl s) Iff.rfl

/-- A settled answer is final unless the connection failed. -/
theorem settle_cases (url : String) (answer : Except TransportFault Http.Response)
    (onConnect : String → Action σ Http.Response) (s : Session σ) :
    (∃ detail, settle url answer onConnect s = onConnect detail s) ∨
    ((∀ detail, answer ≠ .error (.connect detail)) ∧
      ∃ outcome, settle url answer onConnect s = (outcome, s) ∧ outcome ≠ .failed .cancelled) := by
  unfold settle
  split
  · refine .inr ⟨nofun, ?_⟩
    split
    · exact ⟨_, rfl, nofun⟩
    · exact ⟨_, rfl, nofun⟩
  · exact .inl ⟨_, rfl⟩
  · exact .inr ⟨nofun, _, rfl, nofun⟩

/-- A cancelled call sends nothing. -/
theorem postFrom_of_cancelled {peers : Peers σ} {policy : RetryPolicy} {number further : Nat}
    (hs : s.Cancelled) :
    postFrom peers policy request number further s = (.failed .cancelled, s) := by
  cases further <;> simp only [postFrom, Bind.bind, attempt_of_cancelled hs]

end Broker

end AttestedModel
