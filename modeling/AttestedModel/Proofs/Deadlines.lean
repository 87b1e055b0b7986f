import AttestedModel.Proofs.Interruptions
import AttestedModel.Proofs.KeyWrapping

/-!
# Limits of time

A key request with a limit of time goes as the same request without one, up to
the moment at which the time is up (`getKey_limited`).  If the request without a
limit has not ended by then, the limited one ends there, and has sent by then what
the other one has sent by then.
-/

namespace AttestedModel

open AttestedModel.Action

variable {σ : Type}

namespace Interruption

variable {α : Type}

/-- A limited call is the call without a limit if that one ends before the time is up.  If not, it
ends when the time is up, with the requests from before. -/
theorem Paired.within {action : Action σ α} (h : Paired .deadline action action) (limit : Duration)
    (s : Session σ) :
    let moment := s.now + limit.milliseconds
    let free := Action.within none action s
    let run := Action.within (some limit) action s
    (free.1 ≠ .never → free.2.now < moment → run = free) ∧
    (free.1 = .never ∨ moment < free.2.now →
      (∀ sent ∈ transfers (s.since free.2), sent.1 ≠ moment) →
      run.1 = .failed .timeout ∧ run.2.now = moment ∧
        transfers (s.since run.2) = (transfers (s.since free.2)).filter (·.1 < moment)) := by
  let limited := { s with deadline := some (s.now + limit.milliseconds) }
  have hahead : deadline.Ahead limited := by
    rintro moment ⟨⟩
    exact Nat.le_add_right ..
  have hfollows := h.cuts limited hahead
  obtain ⟨all, hall⟩ := h.adds limited
  have hdeadline := hall.deadline_eq
  simp only [Action.within, Option.map_some, Option.map_none]
  change deadline.Follows limited (action limited) (action { s with deadline := none }) at hfollows
  change (action limited).2.deadline = some (s.now + limit.milliseconds) at hdeadline
  show _ ∧ _
  generalize action limited = run at hfollows hdeadline ⊢
  generalize action _ = free at hfollows ⊢
  cases hfollows with
  | @stands outcome t ahead ends =>
      refine ⟨fun _ _ => rfl, fun hlate => ?_⟩
      rcases hlate with hnever | hlate
      · exact absurd ((ends hnever).symm.trans hdeadline) nofun
      · exact absurd hlate (Nat.not_lt.mpr (ahead _ hdeadline))
  | @cut outcome t u cut outlasts =>
      have hnow : t.now = s.now + limit.milliseconds :=
        Option.some.inj (cut.moment_eq.symm.trans hdeadline)
      rw [← hnow]
      refine ⟨fun hends hearly => ?_, fun _ hapart => ⟨rfl, rfl, ?_⟩⟩
      · exact absurd hearly (Nat.not_lt.mpr (outlasts.resolve_left hends))
      · -- no request is sent at the moment itself, so each one is before it or behind it
        obtain ⟨more, hfree, hearly, hlate⟩ := cut.transfers_since
        change ∀ sent ∈ transfers (limited.since u), sent.1 ≠ t.now at hapart
        show transfers (limited.since t) = (transfers (limited.since u)).filter _
        have hbefore : ∀ sent ∈ transfers (limited.since t), sent.1 < t.now := by
          intro sent hsent
          have hsent' : sent ∈ transfers (limited.since u) :=
            hfree ▸ List.mem_append_left more hsent
          exact (hearly sent hsent).lt_of_ne (hapart sent hsent')
        have hbehind : ∀ sent ∈ more, ¬ sent.1 < t.now :=
          fun sent hsent => Nat.not_lt.mpr (hlate sent hsent)
        rw [hfree, List.filter_append, List.filter_eq_self.mpr (by simpa using hbefore),
          List.filter_eq_nil_iff.mpr (by simpa using hbehind), List.append_nil]

end Interruption

namespace Broker

open Interruption

/-- Making a key pair with a deadline follows making one without. -/
theorem paired_makeKeyPair (peers : Peers σ) :
    Paired .deadline (makeKeyPair peers) (makeKeyPair peers) :=
  (paired_ask _ _).bind fun _ => (paired_note _ rfl).bind fun _ =>
    paired_failIfExpired.bind fun _ => paired_ofExcept _ _

/-- Evidence is asked for at one moment, so nothing can be cut in between. -/
theorem paired_collectEvidence (stop : Interruption) (peers : Peers σ) (binding : Bytes) :
    Paired stop (collectEvidence peers binding) (collectEvidence peers binding) := by
  refine (paired_note _ rfl).bind fun _ => (paired_ask _ _).bind fun result => ?_
  cases result with
  | ok evidence => exact stop.paired_pure evidence
  | error failure => cases failure <;> exact stop.paired_fail _

/-- An exchange with a deadline follows the exchange without one. -/
theorem paired_exchange (peers : Peers σ) (policy : RetryPolicy) (serverUrl keyId : String) :
    Paired .deadline (exchange peers policy serverUrl keyId)
      (exchange peers policy serverUrl keyId) :=
  (paired_makeKeyPair peers).bind fun _ =>
    (paired_collectEvidence _ peers _).bind fun _ =>
      ((frame_cuts .deadline _).post peers policy).bind fun _ => paired_ofExcept _ _

/-- **A limit of time cuts a call and changes nothing else.**  Let the limit be a number of whole
milliseconds, and let `moment` be when they are over.  A call that ends before it without a limit
ends in the same way and in the same session with the limit.  A call that ends behind it or never,
and sends nothing at that moment, fails at the moment for lack of time, and has sent what the call
without a limit has sent before. -/
theorem getKey_limited (peers : Peers σ) (policy : RetryPolicy) (serverUrl keyId : String)
    (limit : Duration) (millis : Nat) (hmillis : limit.nanos = millis * 1000000)
    (s : Session σ) :
    let moment := s.now + millis
    let free := getKey peers policy serverUrl keyId none s
    let run := getKey peers policy serverUrl keyId (some limit) s
    (free.1 ≠ .never → free.2.now < moment → run = free) ∧
    (free.1 = .never ∨ moment < free.2.now →
      (∀ sent ∈ transfers (s.since free.2), sent.1 ≠ moment) →
      run.1 = .failed .timeout ∧ run.2.now = moment ∧
        transfers (s.since run.2) = (transfers (s.since free.2)).filter (·.1 < moment)) := by
  obtain rfl := Duration.milliseconds_of_nanos_eq hmillis
  by_cases hblank : Text.blank serverUrl ∨ Text.blank keyId
  · -- a call that lacks an argument fails at once, with and without a limit
    obtain ⟨error, hfail⟩ := getKey_of_blank hblank peers policy
    rw [hfail, hfail]
    refine ⟨fun _ _ => rfl, fun hlate => ?_⟩
    rcases hlate with hnever | hlate
    · exact absurd hnever nofun
    · exact absurd hlate (Nat.not_lt.mpr (Nat.le_add_right ..))
  · rw [getKey_eq_within hblank, getKey_eq_within hblank]
    exact (paired_exchange peers policy serverUrl keyId).within limit s

/-- A key broker to which no connection is made. -/
def closedPeers : Peers Unit where
  makeKeyPair world := (.ok Rsa.samplePair, world)
  collectEvidence _ world := (.ok [1, 2, 3], world)
  post _ world := (.immediate (.error (.connect "refused")), world)

/-- Three attempts at 0, 200 and 600 milliseconds, of which a limit of 300 leaves two. -/
theorem getKey_limited_within_wait :
    let s : Session Unit := .start () ⟨[], []⟩
    let limit : Duration := .ofMillis 300
    let free := getKey closedPeers .standard "http://k" "id" none s
    let run := getKey closedPeers .standard "http://k" "id" (some limit) s
    limit.nanos = 300 * 1000000 ∧ free.2.now = 600 ∧
      (transfers (s.since free.2)).map Prod.fst = [0, 200, 600] ∧
      run.1 = .failed .timeout ∧ run.2.now = 300 ∧
      (transfers (s.since run.2)).map Prod.fst = [0, 200] := by
  intro s limit free run
  have hlimit : limit.nanos = 300 * 1000000 := by decide
  have hfree : getKey closedPeers .standard "http://k" "id" none s = free := rfl
  have hrun : getKey closedPeers .standard "http://k" "id" (some limit) s = run := rfl
  have hnow : free.2.now = 600 := by decide +kernel
  have hsent : (transfers (s.since free.2)).map Prod.fst = [0, 200, 600] := by decide +kernel
  obtain ⟨-, hcut⟩ := getKey_limited closedPeers .standard "http://k" "id" limit 300 hlimit s
  rw [hfree, hrun] at hcut
  -- both runs are known by what was computed of the free one, and are computed no further
  clear_value free run
  have hlate : s.now + 300 < free.2.now := by
    rw [hnow]
    decide
  have hapart : ∀ sent ∈ transfers (s.since free.2), sent.1 ≠ s.now + 300 := by
    intro sent hmem heq
    have htime : sent.1 ∈ [0, 200, 600] := hsent ▸ List.mem_map_of_mem hmem
    rw [heq] at htime
    revert htime
    decide
  obtain ⟨hfailed, hrunNow, hrunSent⟩ := hcut (.inr hlate) hapart
  refine ⟨hlimit, hnow, hsent, hfailed, hrunNow, ?_⟩
  calc (transfers (s.since run.2)).map Prod.fst
      = ((transfers (s.since free.2)).filter (·.1 < s.now + 300)).map Prod.fst :=
        congrArg (List.map Prod.fst) hrunSent
    _ = ((transfers (s.since free.2)).map Prod.fst).filter (· < s.now + 300) := by
        rw [List.filter_map]
        rfl
    _ = [0, 200] := by
        rw [hsent]
        decide

end Broker

end AttestedModel
