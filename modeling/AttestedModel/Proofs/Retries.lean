import AttestedModel.Broker.Exchange
import AttestedModel.Proofs.KeyWrapping
import AttestedModel.Proofs.SessionEvents

/-!
# The law of retries

A transport answers a request again and again, and what a transfer does is decided
by the sequence of its answers alone.  Failed connections are passed over, with one
wait behind each; the first answer of another kind ends the transfer, and so does
the last attempt that the policy allows (`post_follows_answers`).

The law is an induction on the failed connections in front of the answer that
decides (`postFrom_of_refusals`).  It gives all events of the transfer with their
times, so nothing else is sent and nothing else is waited for.
-/

namespace AttestedModel.Broker

open AttestedModel.Action

variable {σ : Type}

/-- A session whose call is not cancelled and has no deadline. -/
def Undisturbed (s : Session σ) : Prop :=
  s.cancelledAt = none ∧ s.deadline = none

/-- An undisturbed session waits until the time it waits for. -/
theorem waitUntil_of_undisturbed {s : Session σ} (h : Undisturbed s) (time : Nat) :
    waitUntil (some time) s = (.done (), { s with now := max time s.now }) := by
  simp [waitUntil, h.1, h.2, earlier]

/-- The world after a request has been sent so many times. -/
def Peers.after (peers : Peers σ) (request : Http.Request) : (count : Nat) → σ → σ
  | 0, world => world
  | count + 1, world => peers.after request count (peers.post request world).2

/-- The reaction to a request that has been sent so many times before. -/
def Peers.reaction (peers : Peers σ) (request : Http.Request) (before : Nat) (world : σ) :
    Reaction :=
  (peers.post request (peers.after request before world)).1

/-- A transport answers a request by a sequence, so many times at least, and cancels nothing.  Each
answer may take its time. -/
def Answers (peers : Peers σ) (request : Http.Request)
    (answers : Nat → Except TransportFault Http.Response) (count : Nat) (world : σ) : Prop :=
  ∀ before < count, (peers.reaction request before world).cancels = false ∧
    (peers.reaction request before world).answer = some (answers before)

/-- The delays of the first reactions to a request. -/
def Peers.delays (peers : Peers σ) (request : Http.Request) (count : Nat) (world : σ) :
    List Duration :=
  (List.range count).map fun before => (peers.reaction request before world).delay

/-- An answer that is no answer at all: the connection failed. -/
def Refused (answer : Except TransportFault Http.Response) : Prop :=
  ∃ detail, answer = .error (.connect detail)

variable {peers : Peers σ} {policy : RetryPolicy} {request : Http.Request} {world : σ}
  {answers : Nat → Except TransportFault Http.Response} {count : Nat} {s : Session σ}

/-- Who answers so many times answers fewer times as well. -/
theorem Answers.mono (h : Answers peers request answers count world) {fewer : Nat}
    (hfewer : fewer ≤ count) : Answers peers request answers fewer world :=
  fun before hbefore => h before (Nat.lt_of_lt_of_le hbefore hfewer)

/-- Behind its first answer a transport goes on with the others. -/
theorem Answers.tail (h : Answers peers request answers (count + 1) world) :
    Answers peers request (fun before => answers (before + 1)) count
      (peers.post request world).2 :=
  fun before hbefore => h (before + 1) (Nat.succ_lt_succ hbefore)

/-- The first reaction brings the first answer, and cancels nothing. -/
theorem Answers.head (h : Answers peers request answers (count + 1) world) :
    peers.post request world =
      ({ delay := (peers.reaction request 0 world).delay, cancels := false,
         answer := some (answers 0) }, (peers.post request world).2) := by
  obtain ⟨hcancels, hanswer⟩ := h 0 (Nat.succ_pos count)
  refine Prod.ext ?_ rfl
  show peers.reaction request 0 world = _
  rw [← hcancels, ← hanswer]

/-- The first delay is that of the first reaction, the others are those of the world behind it. -/
theorem Peers.delays_succ (count : Nat) :
    peers.delays request (count + 1) world =
      (peers.reaction request 0 world).delay ::
        peers.delays request count (peers.post request world).2 := by
  rw [delays, List.range_succ_eq_map, List.map_cons, List.map_map]
  rfl

/-- The wait between two attempts, if it has a length. -/
def waits (length : Duration) : List Event :=
  if length.nanos ≠ 0 then [.waited length] else []

/-- All that happens in a transfer from the attempt of a number on, which begins at a time: an
attempt for each delay, and between two attempts the wait that follows the first one, which takes
as long as the machine sleeps for it. -/
def timetable (longest : Option Duration) (policy : RetryPolicy) (request : Http.Request) :
    (number time : Nat) → (delays : List Duration) → List Event
  | _, _, [] => []
  | _, time, [_] => [.transferred time request]
  | number, time, delay :: delays =>
    let wait := policy.backoffAfter number
    .transferred time request :: (waits wait ++
      timetable longest policy request (number + 1)
        (time + delay.milliseconds + (wait.upTo longest).milliseconds) delays)

/-- Behind an attempt that is not the last one lies its wait, and then the rest. -/
theorem timetable_cons {longest : Option Duration} {number time : Nat} {delay : Duration}
    {delays : List Duration} (h : delays ≠ []) :
    timetable longest policy request number time (delay :: delays) =
      .transferred time request :: (waits (policy.backoffAfter number) ++
        timetable longest policy request (number + 1)
          (time + delay.milliseconds + ((policy.backoffAfter number).upTo longest).milliseconds)
          delays) := by
  cases delays with
  | nil => exact absurd rfl h
  | cons next delays => rfl

/-- How a transfer ends that is decided by an answer. -/
def verdict (policy : RetryPolicy) (url : String) :
    Except TransportFault Http.Response → Outcome Http.Response
  | .ok response =>
    if response.status = 200 then .done response
    else .failed (.keyBrokerUnreachable s!"予期しないステータス {response.status} ({url})")
  | .error (.other detail) => .failed (.keyBrokerUnreachable s!"{detail} ({url})")
  | .error (.connect detail) =>
    .failed (.keyBrokerUnreachable s!"{policy.attempts}回接続に失敗しました ({url}): {detail}")

/-- A wait sends nothing. -/
theorem transfers_waits (length : Duration) : transfers (waits length) = [] := by
  unfold waits
  split <;> rfl

/-- A timetable has one request for each delay, and always the same one. -/
theorem transfers_timetable (longest : Option Duration) (number time : Nat)
    (delays : List Duration) :
    (transfers (timetable longest policy request number time delays)).map Prod.snd =
      List.replicate delays.length request := by
  fun_induction timetable longest policy request number time delays with
  | case1 => rfl
  | case2 => rfl
  | case3 number time delay delays hmore wait ih =>
      have hfirst : ∀ rest, (transfers (.transferred time request :: rest)).map Prod.snd =
          request :: (transfers rest).map Prod.snd := fun _ => rfl
      rw [hfirst, transfers_append, transfers_waits, List.nil_append, ih, List.length_cons,
        List.replicate_succ]

/-- From one session to another a transfer has sent a request so many times, and has waited in
between as its timetable says. -/
structure Sends (peers : Peers σ) (policy : RetryPolicy) (request : Http.Request) (count : Nat)
    (s t : Session σ) : Prop where
  events_eq : s.since t =
    timetable peers.longestSleep policy request 1 s.now (peers.delays request count s.world)
  requests_eq : (transfers (s.since t)).map Prod.snd = List.replicate count request

/-- Events by a timetable send as many requests as it has delays. -/
theorem sends_of_events {t : Session σ}
    (h : t.events = s.events ++
      timetable peers.longestSleep policy request 1 s.now (peers.delays request count s.world)) :
    Sends peers policy request count s t where
  events_eq := Session.since_of_append h
  requests_eq := by
    rw [Session.since_of_append h, transfers_timetable, Peers.delays, List.length_map,
      List.length_range]

/-- The session behind an attempt that is answered. -/
def afterAttempt (peers : Peers σ) (request : Http.Request) (s : Session σ) : Session σ :=
  { s with
    world := (peers.post request s.world).2
    now := s.now + (peers.reaction request 0 s.world).delay.milliseconds
    events := s.events ++ [.transferred s.now request] }

/-- The session behind a pause. -/
def afterPause (longest : Option Duration) (length : Duration) (s : Session σ) : Session σ :=
  { s with
    now := s.now + (length.upTo longest).milliseconds
    events := s.events ++ waits length }

/-- An attempt in an undisturbed session takes as long as its reaction. -/
theorem attempt_eq_of_undisturbed (hs : Undisturbed s)
    (h : Answers peers request answers (count + 1) s.world) :
    attempt peers request s = (.done (answers 0), afterAttempt peers request s) := by
  have hpassed : failIfCancelled s = (.done (), s) := by simp [failIfCancelled, hs.1]
  have hwait := @waitUntil_of_undisturbed σ
    { s with
      world := (peers.post request s.world).2
      events := s.events ++ [.transferred s.now request] } hs
    (s.now + (peers.reaction request 0 s.world).delay.milliseconds)
  rw [Nat.max_eq_left (Nat.le_add_right ..)] at hwait
  unfold attempt
  rw [bind_of_done _ hpassed, now_bind, note_bind, ask_bind]
  dsimp only
  rw [h.head]
  exact bind_of_done _ hwait

/-- A pause in an undisturbed session ends when its time is over, and one without a length at once.
-/
theorem pause_eq_of_undisturbed (hs : Undisturbed s) (longest : Option Duration)
    (length : Duration) :
    pause longest length s = (.done (), afterPause longest length s) := by
  unfold pause afterPause waits
  split
  · have hwait := @waitUntil_of_undisturbed σ
      { s with events := s.events ++ [.waited length] } hs
      (s.now + (length.upTo longest).milliseconds)
    rw [Nat.max_eq_left (Nat.le_add_right ..)] at hwait
    exact hwait
  · simp [Duration.milliseconds_upTo_of_nanos_eq_zero longest (not_not.mp ‹_›)]

/-- An answer that is no failed connection is settled by its verdict. -/
theorem settle_of_final {answer : Except TransportFault Http.Response} (h : ¬ Refused answer)
    (onConnect : String → Action σ Http.Response) :
    settle request.url answer onConnect s = (verdict policy request.url answer, s) := by
  rcases answer with (detail | detail) | response
  · exact absurd ⟨detail, rfl⟩ h
  · rfl
  · unfold settle verdict
    dsimp only
    split <;> rfl

/-- **A run of failed connections.**  If so many attempts are refused, and the next answer is of
another kind or there are no further attempts, then that answer decides, and the timetable up to it
is all that happens. -/
theorem postFrom_of_refusals {refusals further : Nat} (number : Nat) (hs : Undisturbed s)
    (h : Answers peers request answers (refusals + 1) s.world) (hle : refusals ≤ further)
    (hrefused : ∀ before < refusals, Refused (answers before))
    (hfinal : ¬ Refused (answers refusals) ∨ refusals = further) :
    ∃ t, postFrom peers policy request number further s =
        (verdict policy request.url (answers refusals), t) ∧
      t.events = s.events ++ timetable peers.longestSleep policy request number s.now
        (peers.delays request (refusals + 1) s.world) := by
  -- each refusal uses up an attempt and moves the clock, hence the generalized session
  induction refusals generalizing further number s answers with
  | zero =>
      have hattempt := attempt_eq_of_undisturbed hs h
      rw [Peers.delays_succ]
      by_cases hanswer : Refused (answers 0)
      · obtain rfl : 0 = further := hfinal.resolve_left (not_not.mpr hanswer)
        obtain ⟨detail, hanswer⟩ := hanswer
        rw [postFrom, bind_of_done _ hattempt, hanswer]
        exact ⟨_, rfl, rfl⟩
      · cases further <;>
        · rw [postFrom, bind_of_done _ hattempt, settle_of_final hanswer]
          exact ⟨_, rfl, rfl⟩
  | succ refusals ih =>
      obtain ⟨further, rfl⟩ : ∃ n, further = n + 1 := ⟨further - 1, by omega⟩
      obtain ⟨detail, hanswer⟩ := hrefused 0 (Nat.succ_pos refusals)
      have hattempt := attempt_eq_of_undisturbed hs h
      have hpause := pause_eq_of_undisturbed (s := afterAttempt peers request s) hs
        peers.longestSleep (policy.backoffAfter number)
      obtain ⟨t, hrest, hevents⟩ := @ih (fun before => answers (before + 1))
        (afterPause peers.longestSleep (policy.backoffAfter number)
          (afterAttempt peers request s))
        further (number + 1) hs h.tail (Nat.le_of_succ_le_succ hle)
        (fun before hbefore => hrefused (before + 1) (Nat.succ_lt_succ hbefore))
        (hfinal.imp_right Nat.succ.inj)
      refine ⟨t, ?_, ?_⟩
      · rw [postFrom, bind_of_done _ hattempt, hanswer]
        simp only [settle]
        rw [bind_of_done _ hpause, hrest]
      · have hmore : peers.delays request (refusals + 1) (peers.post request s.world).2 ≠ [] := by
          simp [Peers.delays]
        rw [hevents, Peers.delays_succ (refusals + 1), timetable_cons hmore]
        simp only [afterPause, afterAttempt, List.append_assoc, List.cons_append, List.nil_append]

/-- **The law of retries.**  Let a transport answer a request in its turn, and let nothing cancel
the call.  If an answer within the allowed attempts is the first one that is no failed connection,
it alone decides how the transfer ends, and there are as many requests as answers up to it.  If all
connections within the allowed attempts fail, there are as many requests as attempts, and the last
failure is reported with their number.

The requests are all the same.  Behind each of them but the last one lies the wait of its number, if
that has a length, and nothing else happens. -/
theorem post_follows_answers (peers : Peers σ) (policy : RetryPolicy) (request : Http.Request)
    (answers : Nat → Except TransportFault Http.Response) (s : Session σ)
    (hcancelled : s.cancelledAt = none) (hdeadline : s.deadline = none)
    (hanswers : Answers peers request answers (max 1 policy.maxAttempts.toNat) s.world) :
    let attempts := max 1 policy.maxAttempts.toNat
    let run := post peers policy request s
    (∀ first < attempts, (∀ before < first, Refused (answers before)) →
      ¬ Refused (answers first) →
        Sends peers policy request (first + 1) s run.2 ∧
          run.1 = verdict policy request.url (answers first)) ∧
    ((∀ before < attempts, Refused (answers before)) →
      Sends peers policy request attempts s run.2 ∧
        run.1 = verdict policy request.url (answers (attempts - 1))) := by
  intro attempts run
  have hattempts : policy.attempts - 1 + 1 = attempts := Nat.sub_add_cancel (Nat.le_max_left ..)
  have hlaw : ∀ last < attempts, (∀ before < last, Refused (answers before)) →
      ¬ Refused (answers last) ∨ last = policy.attempts - 1 →
      Sends peers policy request (last + 1) s run.2 ∧
        run.1 = verdict policy request.url (answers last) := by
    intro last hlast hrefused hfinal
    obtain ⟨t, hrun, hevents⟩ := postFrom_of_refusals 1 ⟨hcancelled, hdeadline⟩
      (hanswers.mono hlast) (by omega) hrefused hfinal
    rw [show run = _ from hrun]
    exact ⟨sends_of_events hevents, rfl⟩
  constructor
  · intro first hfirst hrefused hanswer
    exact hlaw first hfirst hrefused (.inl hanswer)
  · intro hrefused
    have hall := hlaw (attempts - 1) (by omega)
      (fun before hbefore => hrefused before (by omega)) (.inr rfl)
    rwa [show attempts - 1 + 1 = attempts from hattempts] at hall

/-- A transport that refuses two requests and then answers at once. -/
def twiceRefusing : Peers Nat where
  makeKeyPair world := (.ok Rsa.samplePair, world)
  collectEvidence _ world := (.ok [1, 2, 3], world)
  post _ sent := (.immediate (if sent < 2 then .error (.connect "") else .ok ⟨200, []⟩), sent + 1)

/-- Two refusals cost two waits of the standard policy, one twice as long as the other. -/
theorem post_after_two_refusals :
    let request : Http.Request := ⟨"http://k", [], none⟩
    let s : Session Nat := .start 0 ⟨[], []⟩
    let run := post twiceRefusing .standard request s
    s.since run.2 =
        [.transferred 0 request, .waited (.ofMillis 200), .transferred 200 request,
          .waited (.ofMillis 400), .transferred 600 request] ∧
      run.1 = .done ⟨200, []⟩ := by
  intro request s run
  have hanswers : Answers twiceRefusing request
      (fun sent => if sent < 2 then .error (.connect "") else .ok ⟨200, []⟩) 3 s.world := by
    intro before hbefore
    interval_cases before <;> exact ⟨rfl, rfl⟩
  obtain ⟨hsends, hdone⟩ :=
    (post_follows_answers twiceRefusing .standard request _ s rfl rfl hanswers).1 2 (by decide)
      (fun before hbefore => ⟨"", if_pos hbefore⟩) nofun
  have hwaits : waits (RetryPolicy.standard.backoffAfter 1) = [.waited (.ofMillis 200)] ∧
      waits (RetryPolicy.standard.backoffAfter 2) = [.waited (.ofMillis 400)] := ⟨rfl, rfl⟩
  refine ⟨hsends.events_eq.trans ?_, hdone⟩
  rw [show twiceRefusing.delays request 3 s.world = [.zero, .zero, .zero] from rfl]
  simp only [timetable, hwaits]
  rfl

end AttestedModel.Broker
