import AttestedModel.Proofs.Backoffs
import AttestedModel.Proofs.Retries
import AttestedModel.Proofs.Attempts

/-!
# Waits of a transfer

However a transfer goes, whatever the transport answers and whenever the call is
cancelled or its time is up, the waits that it begins are those of its policy, in
their order and from the first one on (`post_paced`).  So they grow, each is at most
the longest wait of the policy, and there is at most one behind each attempt but the
last (`post_waits_grow`).

This is an induction on the attempts that are left.  An attempt begins no wait, and a
failed connection begins the one of its number, if that has a length.
-/

namespace AttestedModel

/-- The lengths of the waits among events. -/
def waitLengths (events : List Event) : List Duration :=
  events.filterMap fun
    | .waited length => some length
    | _ => none

/-- Waits come in the order of the events. -/
@[simp] theorem waitLengths_append (before after : List Event) :
    waitLengths (before ++ after) = waitLengths before ++ waitLengths after :=
  List.filterMap_append

@[simp] theorem waitLengths_transferred (time : Nat) (request : Http.Request)
    (events : List Event) :
    waitLengths (.transferred time request :: events) = waitLengths events :=
  rfl

namespace RetryPolicy

/-- The waits behind so many failed attempts from a number on, without those of no length. -/
def schedule (policy : RetryPolicy) (number count : Nat) : List Duration :=
  ((List.range' number count).map policy.backoffAfter).filter (·.nanos ≠ 0)

variable {policy : RetryPolicy} {number count : Nat}

/-- A schedule is its first wait, if that has a length, and the schedule behind it. -/
theorem schedule_succ (number count : Nat) :
    policy.schedule number (count + 1) =
      policy.schedule number 1 ++ policy.schedule (number + 1) count := by
  rw [schedule, List.range'_succ, ← List.singleton_append, List.map_append, List.filter_append]
  rfl

/-- No schedule has more waits than it counts. -/
theorem length_schedule_le (number count : Nat) :
    (policy.schedule number count).length ≤ count := by
  refine (List.length_filter_le ..).trans ?_
  rw [List.length_map, List.length_range']

/-- Scheduled waits grow. -/
theorem pairwise_schedule (number count : Nat) :
    (policy.schedule number count).Pairwise (·.nanos ≤ ·.nanos) := by
  refine List.Pairwise.filter _ (List.pairwise_map.mpr ?_)
  refine (List.pairwise_le_range' 1).imp fun hle => ?_
  exact backoffAfter_mono (Nat.le_refl _) (UInt32.le_refl _) (Nat.le_refl _) hle

/-- No scheduled wait is longer than the longest. -/
theorem le_max_of_mem_schedule {wait : Duration} (h : wait ∈ policy.schedule number count) :
    wait.nanos ≤ policy.maxBackoff.nanos := by
  obtain ⟨attempt, -, rfl⟩ := List.mem_map.mp (List.mem_of_mem_filter h)
  exact backoffAfter_le_max policy attempt

end RetryPolicy

namespace Broker

open AttestedModel.Action

variable {σ α : Type} {peers : Peers σ} {policy : RetryPolicy} {request : Http.Request}

/-- Waiting for a reaction adds nothing. -/
theorem adds_await {allowed : Event → Prop} (time : Nat) (reaction : Reaction) :
    Adds allowed (await time reaction : Action σ (Except TransportFault Http.Response)) := by
  obtain ⟨delay, cancels, answer⟩ := reaction
  refine (adds_waitUntil _).bind fun _ => (adds_cancelIf cancels).bind fun _ => ?_
  cases answer with
  | some answer => exact adds_pure answer
  | none => exact (adds_waitUntil none).bind fun _ => adds_pure _

/-- A step that may add nothing adds nothing. -/
theorem events_of_adds {action : Action σ α} (h : Adds (fun _ => False) action) (s : Session σ) :
    (action s).2.events = s.events := by
  have hnone : s.since (action s).2 = [] := List.eq_nil_iff_forall_not_mem.mpr (h.allowed_since s)
  rw [h.events_eq, hnone, List.append_nil]

/-- An attempt adds its request and nothing else, or it is refused. -/
theorem attempt_events (peers : Peers σ) (request : Http.Request) (s : Session σ) :
    attempt peers request s = (.failed .cancelled, s) ∨
      (attempt peers request s).2.events = s.events ++ [.transferred s.now request] := by
  by_cases hs : s.Cancelled
  · exact .inl (attempt_of_cancelled hs)
  · rw [attempt_of_not_cancelled hs]
    exact .inr (events_of_adds (adds_await _ _) _)

/-- Behind an attempt a transfer has ended, with its request or without it, or the connection failed
and the transfer goes on from there. -/
theorem attempt_settle (onConnect : String → Action σ Http.Response) (s : Session σ) :
    let run := (attempt peers request >>= fun answer => settle request.url answer onConnect) s
    let sent := s.events ++ [.transferred s.now request]
    run.2.events = s.events ∨ run.2.events = sent ∨
      ∃ detail t, run = onConnect detail t ∧ t.events = sent := by
  intro run sent
  rcases attempt_events peers request s with hrefused | hsent
  · left
    simp only [run, Bind.bind, hrefused]
  · right
    rcases bind_ends (attempt peers request)
        (fun answer => settle request.url answer onConnect) s with
      hend | ⟨answer, t, hanswer, hrest⟩
    · exact .inl ((congrArg Session.events hend).trans hsent)
    · rw [hanswer] at hsent
      rcases settle_cases request.url answer onConnect t with
        ⟨detail, hconnect⟩ | ⟨-, outcome, hsettled, -⟩
      · exact .inr ⟨detail, t, hrest.trans hconnect, hsent⟩
      · rw [hsettled] at hrest
        exact .inl ((congrArg (·.2.events) hrest).trans hsent)

/-- A pause begins its wait, if that has a length, however it ends. -/
theorem pause_events (longest : Option Duration) (length : Duration) (s : Session σ) :
    (pause longest length s).2.events = s.events ++ waits length := by
  unfold pause waits
  split
  · simp only [note_bind, now_bind]
    exact events_of_adds (adds_waitUntil _) _
  · exact (List.append_nil _).symm

/-- The wait behind a failed attempt is the scheduled one. -/
theorem waitLengths_waits (policy : RetryPolicy) (number : Nat) :
    waitLengths (waits (policy.backoffAfter number)) = policy.schedule number 1 := by
  unfold waits RetryPolicy.schedule
  split
  · simp [waitLengths, *]
  · simp [waitLengths, *]

/-- The events of a transfer from the attempt of a number on, with so many further ones allowed: the
waits are the scheduled ones, one behind each request, but perhaps none behind the last. -/
structure Paced (policy : RetryPolicy) (number further count : Nat) (events : List Event) :
    Prop where
  count_le : count ≤ further
  waits_eq : waitLengths events = policy.schedule number count
  sent_least : count ≤ (transfers events).length
  sent_most : (transfers events).length ≤ count + 1

variable {number further count : Nat} {events : List Event}

/-- A transfer without any event is paced. -/
theorem paced_nil : Paced policy number further 0 [] :=
  ⟨Nat.zero_le _, rfl, Nat.zero_le _, Nat.zero_le _⟩

theorem paced_request (time : Nat) : Paced policy number further 0 [.transferred time request] :=
  ⟨Nat.zero_le _, rfl, Nat.zero_le _, Nat.le_refl _⟩

/-- A wait behind a request sends nothing. -/
theorem transfers_behind (time : Nat) (length : Duration) :
    transfers (.transferred time request :: (waits length ++ events)) =
      (time, request) :: transfers events := by
  show (time, request) :: transfers (waits length ++ events) = _
  rw [transfers_append, transfers_waits, List.nil_append]

/-- A request, the wait of its number and what is paced from the next number on are paced. -/
theorem Paced.behind (request : Http.Request) (time : Nat)
    (h : Paced policy (number + 1) further count events) :
    Paced policy number (further + 1) (count + 1)
      (.transferred time request :: (waits (policy.backoffAfter number) ++ events)) where
  count_le := Nat.succ_le_succ h.count_le
  waits_eq := by
    rw [waitLengths_transferred, waitLengths_append, waitLengths_waits, h.waits_eq,
      RetryPolicy.schedule_succ number count]
  sent_least := by
    rw [transfers_behind]
    exact Nat.succ_le_succ h.sent_least
  sent_most := by
    rw [transfers_behind]
    exact Nat.succ_le_succ h.sent_most

/-- **The waits of a transfer are those of its policy**, in their order and from the first one on,
however many attempts are left. -/
theorem postFrom_paced (peers : Peers σ) (policy : RetryPolicy) (request : Http.Request)
    (number further : Nat) (s : Session σ) :
    ∃ new count, (postFrom peers policy request number further s).2.events = s.events ++ new ∧
      Paced policy number further count new := by
  -- a failed connection moves on to the next number, and to another session
  induction further generalizing number s with
  | zero =>
      rw [postFrom]
      rcases @attempt_settle σ peers request (fun detail => fail (.keyBrokerUnreachable
          s!"{policy.attempts}回接続に失敗しました ({request.url}): {detail}")) s with
        hnone | hsent | ⟨detail, t, hrun, hsent⟩
      · exact ⟨[], 0, hnone.trans (List.append_nil _).symm, paced_nil⟩
      · exact ⟨_, 0, hsent, paced_request s.now⟩
      · rw [hrun]
        exact ⟨_, 0, hsent, paced_request s.now⟩
  | succ further ih =>
      rw [postFrom]
      rcases @attempt_settle σ peers request (fun _ => do
          pause peers.longestSleep (policy.backoffAfter number)
          postFrom peers policy request (number + 1) further) s with
        hnone | hsent | ⟨detail, t, hrun, hsent⟩
      · exact ⟨[], 0, hnone.trans (List.append_nil _).symm, paced_nil⟩
      · exact ⟨_, 0, hsent, paced_request s.now⟩
      · rw [hrun]
        have hbehind : ∃ rest count, ((do
            pause peers.longestSleep (policy.backoffAfter number)
            postFrom peers policy request (number + 1) further) t).2.events =
            (pause peers.longestSleep (policy.backoffAfter number) t).2.events ++ rest ∧
            Paced policy (number + 1) further count rest := by
          rcases bind_ends (pause peers.longestSleep (policy.backoffAfter number))
              (fun _ => postFrom peers policy request (number + 1) further) t with
            hend | ⟨_, u, hpassed, hrest⟩
          · -- a pause that is cut short is followed by nothing
            exact ⟨[], 0, (congrArg Session.events hend).trans (List.append_nil _).symm, paced_nil⟩
          · rw [hrest, hpassed]
            exact ih (number + 1) u
        obtain ⟨rest, count, hrest, hpaced⟩ := hbehind
        refine ⟨_, count + 1, ?_, hpaced.behind request s.now⟩
        rw [hrest, pause_events, hsent]
        simp only [List.append_assoc, List.cons_append, List.nil_append]

/-- One wait lies behind each request of a transfer, but perhaps none behind the last, and their
lengths are those of the policy. -/
theorem post_paced (peers : Peers σ) (policy : RetryPolicy) (request : Http.Request)
    (s : Session σ) :
    ∃ count, Paced policy 1 (max 1 policy.maxAttempts.toNat - 1) count
      (s.since (post peers policy request s).2) := by
  obtain ⟨new, count, hevents, hpaced⟩ :=
    postFrom_paced peers policy request 1 (policy.attempts - 1) s
  have hnew : s.since (post peers policy request s).2 = new := Session.since_of_append hevents
  rw [hnew]
  exact ⟨count, hpaced⟩

/-- **Waits in a transfer grow and stay bounded.**  Whatever the transport answers, and whether and
whenever the call is cancelled, each wait of a transfer is at least as long as the one before and at
most the longest of the policy.  There are fewer waits than attempts, which bounds their sum.  What
a wait depends on makes it no shorter when it grows: the number of the attempt, the first wait, the
multiplier and the longest wait. -/
theorem post_waits_grow (peers : Peers σ) (policy : RetryPolicy) (request : Http.Request)
    (s : Session σ) :
    let waits := waitLengths (s.since (post peers policy request s).2)
    let most := max 1 policy.maxAttempts.toNat - 1
    waits.Pairwise (·.nanos ≤ ·.nanos) ∧
    (∀ wait ∈ waits, wait.nanos ≤ policy.maxBackoff.nanos) ∧
    waits.length ≤ most ∧
    (waits.map Duration.nanos).sum ≤ most * policy.maxBackoff.nanos ∧
    ∀ (p q : RetryPolicy) (m n : Nat), p.initialBackoff.nanos ≤ q.initialBackoff.nanos →
      p.multiplier ≤ q.multiplier → p.maxBackoff.nanos ≤ q.maxBackoff.nanos → m ≤ n →
        (p.backoffAfter m).nanos ≤ (q.backoffAfter n).nanos := by
  intro waits most
  obtain ⟨count, hpaced⟩ := post_paced peers policy request s
  have hschedule : waits = policy.schedule 1 count := hpaced.waits_eq
  have hlength : waits.length ≤ most := by
    rw [hschedule]
    exact (RetryPolicy.length_schedule_le 1 count).trans hpaced.count_le
  have hbound : ∀ wait ∈ waits, wait.nanos ≤ policy.maxBackoff.nanos := by
    rw [hschedule]
    exact fun wait hwait => RetryPolicy.le_max_of_mem_schedule hwait
  refine ⟨?_, hbound, hlength, ?_, fun p q m n => RetryPolicy.backoffAfter_mono⟩
  · rw [hschedule]
    exact RetryPolicy.pairwise_schedule 1 count
  · calc
      (waits.map Duration.nanos).sum
      _ ≤ (waits.map Duration.nanos).length • policy.maxBackoff.nanos :=
        List.sum_le_card_nsmul _ _ (List.forall_mem_map.mpr hbound)
      _ ≤ most * policy.maxBackoff.nanos := by
        rw [List.length_map, smul_eq_mul]
        exact Nat.mul_le_mul_right _ hlength

/-- A transfer that is refused twice waits twice and four seconds at most, and a policy of one
nanosecond waits less than one of a second, also where the power of that has long been saturated. -/
theorem post_waits_of_two_refusals :
    let request : Http.Request := ⟨"http://k", [], none⟩
    let s : Session Nat := .start 0 ⟨[], []⟩
    let waits := waitLengths (s.since (post twiceRefusing .standard request s).2)
    let short : RetryPolicy := ⟨0, .ofNanos 1, .ofParts 3600 0, 0⟩
    let long : RetryPolicy := ⟨0, .ofParts 1 0, .ofParts 7200 0, 4294967295⟩
    (short.initialBackoff.nanos ≤ long.initialBackoff.nanos ∧
      short.multiplier ≤ long.multiplier ∧ short.maxBackoff.nanos ≤ long.maxBackoff.nanos) ∧
    waits = [.ofMillis 200, .ofMillis 400] ∧
    (waits.map Duration.nanos).sum ≤ 2 * RetryPolicy.standard.maxBackoff.nanos ∧
    (short.backoffAfter 3).nanos ≤ (long.backoffAfter 4294967295).nanos := by
  intro request s waits short long
  have hinitial : short.initialBackoff.nanos ≤ long.initialBackoff.nanos := by decide
  have hmultiplier : short.multiplier ≤ long.multiplier := by decide
  have hlongest : short.maxBackoff.nanos ≤ long.maxBackoff.nanos := by decide
  obtain ⟨-, -, -, hsum, hmono⟩ := post_waits_grow twiceRefusing .standard request s
  exact ⟨⟨hinitial, hmultiplier, hlongest⟩, by decide +kernel, hsum,
    hmono short long 3 4294967295 hinitial hmultiplier hlongest (by decide)⟩

end Broker

end AttestedModel
