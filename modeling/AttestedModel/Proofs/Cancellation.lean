import AttestedModel.Proofs.Attempts
import AttestedModel.Proofs.Interruptions

/-!
# Cancelled transfers

A cancellation ends a transfer at its own moment, whoever cancels and whatever is
going on then (`post_stops_when_cancelled`).

What a single run has to do with cancellations is its `Course`.  A step of the loop
either ends the run or leads to a further course (`HasCourse.attempt_bind`), so that
the loop has one by induction on the attempts that are left (`course_postFrom`).  That
the run ends at the moment of the cancellation, and goes until then as it would
without, is the comparison with the run without cancellation (`follows_post`).
-/

namespace AttestedModel.Broker

open AttestedModel.Action

variable {σ : Type} {s t u v : Session σ} {request : Http.Request} {reaction : Reaction}
  {world : σ}

/-- The requests of a transfer, each by its time and with what it brings about. -/
def reactions (peers : Peers σ) : List (Nat × Http.Request) → σ → List (Nat × Reaction)
  | [], _ => []
  | (time, request) :: rest, world =>
    (time, (peers.post request world).1) :: reactions peers rest (peers.post request world).2

/-- The answer of a reaction ends a transfer, as it is no failed connection or there are no
further attempts. -/
def Reaction.Final (reaction : Reaction) (further : Nat) : Prop :=
  ∃ answer, reaction.answer = some answer ∧
    ((∀ detail, answer ≠ .error (.connect detail)) ∨ further = 0)

/-- What a run of at most so many attempts has to do with cancellations, its own and a given one. -/
structure Course {α : Type} (limit : Nat) (s : Session σ) (attempts : List (Nat × Reaction))
    (run : Outcome α × Session σ) : Prop where
  begun_before : ∀ moment, s.cancelledAt = some moment → ∀ attempt ∈ attempts, attempt.1 < moment
  only_last_cancels : ∀ attempt ∈ attempts.dropLast, attempt.2.cancels = false
  /-- The call is cancelled by the last reaction or as it was given, whichever is first. -/
  cancelledAt_eq : run.2.cancelledAt = s.cancelledAt ∨ ∃ last, attempts.getLast? = some last ∧
    last.2.cancels ∧ run.2.cancelledAt = some (last.1 + last.2.delay.milliseconds) ∧
    ∀ moment, s.cancelledAt = some moment → last.1 + last.2.delay.milliseconds < moment
  cancelled : ∀ last, attempts.getLast? = some last → last.2.cancels →
    last.1 + last.2.delay.milliseconds ≤ run.2.now → run.2.Cancelled
  cancelled_of_failed : run.1 = .failed .cancelled → run.2.Cancelled
  /-- What does not fail in a cancelled call ended with the reaction that cancelled. -/
  failed_or_final : run.2.Cancelled → run.1 = .failed .cancelled ∨
    ∃ last, attempts.getLast? = some last ∧ last.2.cancels ∧
      run.2.cancelledAt = some (last.1 + last.2.delay.milliseconds) ∧
      last.2.Final (limit - attempts.length)

variable {α : Type} {limit : Nat} {attempts : List (Nat × Reaction)} {run : Outcome α × Session σ}

/-- A cancelled call begins no attempt. -/
theorem Course.refused (h : s.Cancelled) :
    Course limit s [] ((.failed .cancelled, s) : Outcome α × Session σ) where
  begun_before := nofun
  only_last_cancels := nofun
  cancelledAt_eq := .inl rfl
  cancelled := nofun
  cancelled_of_failed _ := h
  failed_or_final _ := .inl rfl

/-- A run may end with its first attempt. -/
theorem Course.ended {outcome : Outcome α} (h : Attempted request reaction world s t)
    (hfailed : outcome = .failed .cancelled → t.Cancelled)
    (hcancelled : t.Cancelled → outcome = .failed .cancelled ∨ reaction.cancels ∧
      t.cancelledAt = some (reaction.due s) ∧ reaction.Final (limit - 1)) :
    Course limit s [(s.now, reaction)] (outcome, t) where
  begun_before moment hmoment attempt hattempt := by
    rw [List.mem_singleton.mp hattempt]
    exact Session.lt_of_not_cancelled h.stands hmoment
  only_last_cancels := nofun
  cancelledAt_eq := h.cancelledAt_eq.imp_right fun hcancels => ⟨_, rfl, hcancels⟩
  cancelled := by
    rintro last ⟨⟩
    exact h.cancelled
  cancelled_of_failed := hfailed
  failed_or_final ht := (hcancelled ht).imp_right fun hfinal => ⟨_, rfl, hfinal⟩

/-- A run may go on behind its first attempt, if that has cancelled nothing. -/
theorem Course.again (h : Attempted request reaction world s t)
    (hcancels : reaction.cancels = false) (hquiet : Quiet t u)
    (hrest : Course limit u attempts run) :
    Course (limit + 1) s ((s.now, reaction) :: attempts) run := by
  have hcancelledAt : u.cancelledAt = s.cancelledAt := by
    rw [hquiet.cancelledAt_eq]
    exact h.cancelledAt_eq.resolve_right fun ⟨hcancels', _⟩ => by simp [hcancels] at hcancels'
  -- the last attempt of a run of several is the last one of the rest
  have hlast : ∀ last, ((s.now, reaction) :: attempts).getLast? = some last → last.2.cancels →
      attempts.getLast? = some last := by
    intro last hlast hcancels'
    rw [List.getLast?_cons] at hlast
    cases hattempts : attempts.getLast? with
    | none =>
        rw [hattempts] at hlast
        obtain rfl := Option.some.inj hlast
        simp [hcancels] at hcancels'
    | some other => rwa [hattempts] at hlast
  have hlast' : ∀ last, attempts.getLast? = some last →
      ((s.now, reaction) :: attempts).getLast? = some last := by
    intro last hlast
    rw [List.getLast?_cons, hlast]
    rfl
  exact {
    begun_before := by
      rintro moment hmoment attempt hattempt
      rcases List.mem_cons.mp hattempt with rfl | hattempt
      · exact Session.lt_of_not_cancelled h.stands hmoment
      · exact hrest.begun_before moment (hcancelledAt.trans hmoment) attempt hattempt
    only_last_cancels := by
      intro attempt hattempt
      cases attempts with
      | nil => exact absurd hattempt (by simp)
      | cons next rest =>
          rw [List.dropLast_cons_cons] at hattempt
          rcases List.mem_cons.mp hattempt with rfl | hattempt
          · exact hcancels
          · exact hrest.only_last_cancels attempt hattempt
    cancelledAt_eq := by
      rw [← hcancelledAt]
      exact hrest.cancelledAt_eq.imp_right fun ⟨last, heq, hself⟩ => ⟨last, hlast' last heq, hself⟩
    cancelled := fun last heq hcancels => hrest.cancelled last (hlast last heq hcancels) hcancels
    cancelled_of_failed := hrest.cancelled_of_failed
    failed_or_final := by
      intro hcancelled
      refine (hrest.failed_or_final hcancelled).imp_right fun ⟨last, heq, hself, hat, hfinal⟩ => ?_
      refine ⟨last, hlast' last heq, hself, hat, ?_⟩
      rwa [List.length_cons, Nat.add_sub_add_right] }

/-- The first attempt of a run is the one that was just begun. -/
theorem Attempted.reactions_since {peers : Peers σ}
    (hpost : peers.post request s.world = (reaction, world))
    (h : Attempted request reaction world s t) (hquiet : Quiet t u) {more : List Event}
    (hmore : v.events = u.events ++ more) :
    reactions peers (transfers (s.since v)) s.world =
      (s.now, reaction) :: reactions peers (transfers (u.since v)) u.world := by
  obtain ⟨waits, hwaits, hnone⟩ := h.events_eq
  obtain ⟨waits', hwaits', hnone'⟩ := hquiet.events_eq
  have hevents : v.events =
      s.events ++ (.transferred s.now request :: (waits ++ waits' ++ more)) := by
    rw [hmore, hwaits', hwaits]
    simp only [List.append_assoc, List.cons_append]
  have hsent : transfers (s.since v) = (s.now, request) :: transfers more := by
    rw [Session.since_of_append hevents]
    show (s.now, request) :: transfers (waits ++ waits' ++ more) = _
    simp only [transfers_append, hnone, hnone', List.nil_append]
  rw [hsent, Session.since_of_append hmore, hquiet.world_eq, h.world_eq]
  simp only [reactions, hpost]

/-- The run of a transfer has a course of at most so many attempts, and they are the ones that it
has sent. -/
def HasCourse (peers : Peers σ) (limit : Nat) (s : Session σ)
    (run : Outcome α × Session σ) : Prop :=
  Course limit s (reactions peers (transfers (s.since run.2)) s.world) run

section
variable {peers : Peers σ} (hpost : peers.post request s.world = (reaction, world))
include hpost

/-- A run that ends with its first attempt has a course of one. -/
theorem HasCourse.ended {outcome : Outcome α} (h : Attempted request reaction world s t)
    (hfailed : outcome = .failed .cancelled → t.Cancelled)
    (hcancelled : t.Cancelled → outcome = .failed .cancelled ∨ reaction.cancels ∧
      t.cancelledAt = some (reaction.due s) ∧ reaction.Final (limit - 1)) :
    HasCourse peers limit s (outcome, t) := by
  have hattempts := h.reactions_since hpost (.refl t) (List.append_nil t.events).symm
  rw [Session.since_self, transfers_nil, reactions] at hattempts
  rw [HasCourse, hattempts]
  exact .ended h hfailed hcancelled

/-- A run that goes on quietly has one attempt more than its rest. -/
theorem HasCourse.again (h : Attempted request reaction world s t)
    (hcancels : reaction.cancels = false) (hquiet : Quiet t u) {more : List Event}
    (hmore : run.2.events = u.events ++ more) (hrest : HasCourse peers limit u run) :
    HasCourse peers (limit + 1) s run := by
  rw [HasCourse, h.reactions_since hpost hquiet hmore]
  exact .again h hcancels hquiet hrest

/-- A chain that begins with an attempt has a course if what follows an answer has one. -/
theorem HasCourse.attempt_bind {next : Except TransportFault Http.Response → Action σ α}
    (hnext : ∀ answer t, Attempted request reaction world s t → reaction.answer = some answer →
      (t.Cancelled ↔ reaction.cancels) →
      (reaction.cancels → t.cancelledAt = some (reaction.due s)) →
      HasCourse peers limit s (next answer t)) :
    HasCourse peers limit s ((attempt peers request >>= next) s) := by
  have hends := attempt_ends hpost
  simp only [Bind.bind]
  generalize attempt peers request s = attempted at hends ⊢
  cases hends with
  | refused cancelled =>
      simp only [HasCourse, Session.since_self]
      exact .refused cancelled
  | answered attempted answer_eq cancelled_iff cancelled_at =>
      exact hnext _ _ attempted answer_eq cancelled_iff cancelled_at
  | failed attempted cancelled_iff =>
      exact .ended hpost attempted (fun h => cancelled_iff.mp (by simpa using h))
        fun ht => .inl (congrArg _ (cancelled_iff.mpr ht))
  | never attempted stands => exact .ended hpost attempted nofun fun ht => absurd ht stands

/-- An attempt and a pause have a course if what follows the pause has one and sends nothing in a
cancelled call. -/
theorem HasCourse.pause_bind (h : Attempted request reaction world s t)
    (hcancelled : t.Cancelled ↔ reaction.cancels) (longest : Option Duration) (length : Duration)
    {next : Unit → Action σ α}
    (hrefused : ∀ u, u.Cancelled → next () u = (.failed .cancelled, u))
    (hadds : ∀ u, ∃ more, (next () u).2.events = u.events ++ more)
    (hnext : ∀ u, HasCourse peers limit u (next () u)) :
    HasCourse peers (limit + 1) s ((pause longest length >>= next) t) := by
  have hpause := pause_ends longest length t
  simp only [Bind.bind]
  generalize pause longest length t = paused at hpause ⊢
  cases hpause with
  | failed quiet cancelled_iff =>
      exact .ended hpost (h.quiet hcancelled.mpr quiet)
        (fun hfailed => cancelled_iff.mp (by simpa using hfailed))
        fun hu => .inl (congrArg _ (cancelled_iff.mpr hu))
  | @passed u quiet cancelled_iff =>
      by_cases ht : t.Cancelled
      · -- a pause of no length is passed, but no further attempt is begun
        have hu := cancelled_iff.mpr ht
        simp only [hrefused u hu]
        exact .ended hpost (h.quiet hcancelled.mpr quiet) (fun _ => hu) fun _ => .inl rfl
      · have hcancels : reaction.cancels = false := by
          simpa [hcancelled] using ht
        obtain ⟨more, hmore⟩ := hadds u
        exact .again hpost h hcancels quiet hmore (hnext u)

end

/-- **The course of the loop**, however many attempts are left. -/
theorem course_postFrom (peers : Peers σ) (policy : RetryPolicy) (request : Http.Request)
    (number further : Nat) (s : Session σ) :
    HasCourse peers (further + 1) s (postFrom peers policy request number further s) := by
  induction further generalizing number s with
  | zero =>
      cases hpost : peers.post request s.world with
      | mk reaction world =>
          refine .attempt_bind hpost fun answer t hattempted hanswer hcancelled hmoment => ?_
          -- the last attempt is final, however it is answered
          have hfinal : t.Cancelled → reaction.cancels ∧ t.cancelledAt = some (reaction.due s) ∧
              reaction.Final 0 :=
            fun ht => ⟨hcancelled.mp ht, hmoment (hcancelled.mp ht), answer, hanswer, .inr rfl⟩
          rcases settle_cases request.url answer _ t with ⟨detail, heq⟩ | ⟨-, outcome, heq, hne⟩
          · rw [heq]
            exact .ended hpost hattempted nofun fun ht => .inr (hfinal ht)
          · rw [heq]
            exact .ended hpost hattempted (fun h => absurd h hne) fun ht => .inr (hfinal ht)
  | succ further ih =>
      cases hpost : peers.post request s.world with
      | mk reaction world =>
          refine .attempt_bind hpost fun answer t hattempted hanswer hcancelled hmoment => ?_
          rcases settle_cases request.url answer _ t with
            ⟨detail, heq⟩ | ⟨hother, outcome, heq, hne⟩
          · rw [heq]
            refine .pause_bind hpost hattempted hcancelled _ _ (fun u => postFrom_of_cancelled)
              (fun u => ?_) fun u => ih (number + 1) u
            obtain ⟨more, hmore⟩ := (frame_adds request).postFrom peers policy (number + 1) further u
            exact ⟨more, hmore.events_eq⟩
          · rw [heq]
            refine .ended hpost hattempted (fun h => absurd h hne) fun ht => .inr ?_
            exact ⟨hcancelled.mp ht, hmoment (hcancelled.mp ht), answer, hanswer, .inl hother⟩

/-- A transfer has a course of no more attempts than its policy allows. -/
theorem course_post (peers : Peers σ) (policy : RetryPolicy) (request : Http.Request)
    (s : Session σ) : HasCourse peers policy.attempts s (post peers policy request s) := by
  have hattempts : policy.attempts - 1 + 1 = policy.attempts :=
    Nat.sub_add_cancel (le_max_left ..)
  exact hattempts ▸ course_postFrom peers policy request 1 (policy.attempts - 1) s

/-- The reactions of muted peers cancel nothing. -/
theorem not_cancels_of_muted {peers : Peers σ} {sent : List (Nat × Http.Request)} {world : σ} :
    ∀ attempt ∈ reactions (peers.muted fun _ => false) sent world, attempt.2.cancels = false := by
  induction sent generalizing world with
  | nil => exact nofun
  | cons first rest ih =>
      intro attempt hattempt
      rcases List.mem_cons.mp hattempt with rfl | hattempt
      · rfl
      · exact ih attempt hattempt

/-- A transfer that nobody cancels does not end as if it were cancelled. -/
theorem not_cancelled_of_muted (peers : Peers σ) (policy : RetryPolicy) (request : Http.Request)
    (hs : s.cancelledAt = none) :
    (post (peers.muted fun _ => false) policy request s).1 ≠ .failed .cancelled := by
  have hcourse := course_post (peers.muted fun _ => false) policy request s
  intro hfailed
  obtain ⟨moment, hmoment, -⟩ := Session.cancelled_iff.mp (hcourse.cancelled_of_failed hfailed)
  rcases hcourse.cancelledAt_eq with heq | ⟨last, hlast, hcancels, -⟩
  · rw [heq, hs] at hmoment
    exact absurd hmoment nofun
  · rw [not_cancels_of_muted last (List.mem_of_getLast? hlast)] at hcancels
    exact absurd hcancels nofun

/-- A call that was cancelled before ends at once, and has sent nothing. -/
theorem post_of_cancelled (peers : Peers σ) (policy : RetryPolicy) (request : Http.Request)
    (hs : s.Cancelled) : post peers policy request s = (.failed .cancelled, s) :=
  postFrom_of_cancelled hs

/-- **A cancellation stops a transfer at once.**  The call may be given as cancelled at a moment,
and any reaction may cancel it when it comes.

No attempt begins at the given moment or behind it, and none behind a reaction that cancels.  The
call is cancelled by the last reaction or as it was given, whichever is first.  If it has been
cancelled by its end, it fails as cancelled, and at the moment of the cancellation (or at once, if
that is past).  Only a final answer that comes together with the cancellation stands: any answer
but a failed connection, or that of the last attempt.  A call that never ends is never cancelled.

What has been sent is a prefix of what the same call sends without any cancellation; and a call
that ends before its cancellation is that call, which does not fail as cancelled. -/
theorem post_stops_when_cancelled (peers : Peers σ) (policy : RetryPolicy) (request : Http.Request)
    (s : Session σ) :
    let run := post peers policy request s
    let free := post (peers.muted fun _ => false) policy request { s with cancelledAt := none }
    let attempts := reactions peers (transfers (s.since run.2)) s.world
    (∀ moment, s.cancelledAt = some moment → ∀ attempt ∈ attempts, attempt.1 < moment) ∧
    (∀ attempt ∈ attempts.dropLast, attempt.2.cancels = false) ∧
    (run.2.cancelledAt = s.cancelledAt ∨ ∃ last, attempts.getLast? = some last ∧
      last.2.cancels ∧ run.2.cancelledAt = some (last.1 + last.2.delay.milliseconds) ∧
      ∀ moment, s.cancelledAt = some moment → last.1 + last.2.delay.milliseconds < moment) ∧
    (∀ last, attempts.getLast? = some last → last.2.cancels →
      last.1 + last.2.delay.milliseconds ≤ run.2.now → run.2.Cancelled) ∧
    (∀ moment, run.2.cancelledAt = some moment → moment ≤ run.2.now →
      (run.1 = .failed .cancelled ∧ run.2.now = max moment s.now) ∨
      (run.1 = free.1 ∧ run.2.now = moment ∧ ∃ last, attempts.getLast? = some last ∧
        last.2.cancels ∧ last.1 + last.2.delay.milliseconds = moment ∧
        last.2.Final (policy.attempts - attempts.length))) ∧
    (run.1 = .never → run.2.cancelledAt = none) ∧
    (transfers (s.since run.2) <+: transfers (s.since free.2)) ∧
    ((∀ moment, run.2.cancelledAt = some moment → run.2.now < moment) →
      run.1 ≠ .failed .cancelled ∧ run.1 = free.1 ∧
        { run.2 with cancelledAt := none } = free.2) := by
  have hcourse := course_post peers policy request s
  refine ⟨hcourse.begun_before, hcourse.only_last_cancels, hcourse.cancelledAt_eq,
    hcourse.cancelled, ?_⟩
  by_cases hs : s.Cancelled
  · rw [post_of_cancelled peers policy request hs]
    obtain ⟨moment, hmoment, hpast⟩ := Session.cancelled_iff.mp hs
    refine ⟨fun moment' _ hpast' => .inl ⟨rfl, (max_eq_right hpast').symm⟩, nofun, ?_, ?_⟩
    · rw [Session.since_self]
      exact List.nil_prefix
    · exact fun hlate => absurd (hlate moment hmoment) (Nat.not_lt.mpr hpast)
  · have hahead : Interruption.cancellation.Ahead s :=
      fun moment hmoment => (Session.lt_of_not_cancelled hs hmoment).le
    have hfollows : Interruption.cancellation.Follows s (post peers policy request s)
        (post (peers.muted fun _ => false) policy request { s with cancelledAt := none }) :=
      follows_post .cancellation peers policy request hahead
    have hfree : (post (peers.muted fun _ => false) policy request
        { s with cancelledAt := none }).1 ≠ .failed .cancelled :=
      not_cancelled_of_muted peers policy request rfl
    obtain ⟨new, hnew⟩ := (frame_adds request).post peers policy s
    generalize post peers policy request s = run at hcourse hfollows hnew ⊢
    generalize post _ policy request _ = free at hfollows hfree ⊢
    cases hfollows with
    | @stands outcome t ahead ends =>
        -- only at its very end the call may have been cancelled
        refine ⟨fun moment hmoment hpast => .inr ?_, ends, List.prefix_rfl,
          fun _ => ⟨hfree, rfl, rfl⟩⟩
        have hnow : t.now = moment := le_antisymm (ahead moment hmoment) hpast
        obtain ⟨last, hlast, hself, hat, hfinal⟩ := (hcourse.failed_or_final
          (Session.cancelled_iff.mpr ⟨moment, hmoment, hpast⟩)).resolve_left hfree
        exact ⟨rfl, hnow, last, hlast, hself, Option.some.inj (hat.symm.trans hmoment), hfinal⟩
    | @cut outcome t u cut =>
        refine ⟨fun moment hmoment _ => .inl ⟨rfl, ?_⟩, nofun, ?_, fun hlate => ?_⟩
        · obtain rfl := Option.some.inj (cut.moment_eq.symm.trans hmoment)
          exact (max_eq_left hnew.now_le).symm
        · obtain ⟨more, hmore, -⟩ := cut.transfers_since
          exact ⟨more, hmore.symm⟩
        · exact absurd (hlate t.now cut.moment_eq) (lt_irrefl _)

end AttestedModel.Broker
