import AttestedModel.Proofs.Cancellation
import AttestedModel.Proofs.TransferBinding

/-!
# Key requests up to their reply

An exchange with the key broker is a request for a key (`askForKey`) and the opening of
the reply (`exchange_eq`).

The request either gets a reply or fails for want of one.  What it can fail for is
carried through the chain of its steps (`FailsOnly`), and a transfer is one of them for
which a `Frame` does that.  The reply is the answer to the last request that was sent
(`LastAnswered`): an answer that does not end the transfer is no reply, so this follows
by induction on the attempts that are left.
-/

namespace AttestedModel

namespace Action

variable {σ α β : Type}

/-- An action fails for reasons of a kind only, however the world answers. -/
def FailsOnly (kind : LoadError → Prop) (action : Action σ α) : Prop :=
  ∀ s e, (action s).1 = .failed e → kind e

variable {kind : LoadError → Prop}

/-- What is always done never fails. -/
theorem failsOnly_of_done {action : Action σ α} (h : ∀ s, ∃ a, (action s).1 = .done a) :
    FailsOnly kind action := by
  intro s e hfailed
  obtain ⟨a, hdone⟩ := h s
  exact absurd (hdone.symm.trans hfailed) nofun

/-- A chain of calls that fail in such ways fails in such ways. -/
theorem FailsOnly.bind {action : Action σ α} {next : α → Action σ β} (h : FailsOnly kind action)
    (hnext : ∀ a, FailsOnly kind (next a)) : FailsOnly kind (action >>= next) := by
  intro s e hfailed
  have hfirst := h s e
  cases hrun : action s with
  | mk outcome t =>
      rw [hrun] at hfirst
      cases outcome with
      | done a =>
          rw [bind_of_done next hrun] at hfailed
          exact hnext a t e hfailed
      | failed e' =>
          simp only [Bind.bind, hrun] at hfailed
          obtain rfl := Outcome.failed.inj hfailed
          exact hfirst rfl
      | never =>
          simp only [Bind.bind, hrun] at hfailed
          exact absurd hfailed nofun

theorem failsOnly_fail {e : LoadError} (h : kind e) : FailsOnly kind (fail e : Action σ α) := by
  rintro s _ ⟨⟩
  exact h

/-- A deadline stops a call with one kind of failure. -/
theorem failsOnly_failIfExpired (h : kind .timeout) :
    FailsOnly kind (failIfExpired : Action σ Unit) := by
  intro s e hfailed
  unfold failIfExpired at hfailed
  split at hfailed
  · cases hfailed
    exact h
  · exact absurd hfailed nofun

/-- A cancellation stops a call with one kind of failure. -/
theorem failsOnly_failIfCancelled (h : kind .cancelled) :
    FailsOnly kind (failIfCancelled : Action σ Unit) := by
  intro s e hfailed
  unfold failIfCancelled at hfailed
  split at hfailed
  · cases hfailed
    exact h
  · exact absurd hfailed nofun

/-- A wait fails for the deadline or for a cancellation, and for nothing else. -/
theorem failsOnly_waitUntil (htimeout : kind .timeout) (hcancelled : kind .cancelled)
    (time : Option Nat) : FailsOnly kind (waitUntil time : Action σ Unit) := by
  intro s e hfailed
  have hends := waitUntil_ends time s
  generalize waitUntil time s = run at hends hfailed
  cases hends with
  | reached => exact absurd hfailed nofun
  | cancelled =>
      cases hfailed
      exact hcancelled
  | expired =>
      cases hfailed
      exact htimeout
  | never => exact absurd hfailed nofun

end Action

namespace Broker

open AttestedModel.Action

variable {σ : Type}

/-- The kinds of failures of a key request that has got no reply of status 200. -/
inductive NoReply : LoadError → Prop
  | cryptoInit (detail : String) : NoReply (.cryptoInit detail)
  | evidenceUnavailable (detail : String) : NoReply (.evidenceUnavailable detail)
  | keyBrokerUnreachable (detail : String) : NoReply (.keyBrokerUnreachable detail)
  | timeout : NoReply .timeout
  | cancelled : NoReply .cancelled

/-- A transfer fails because no reply has come. -/
theorem frame_noReply (request : Http.Request) :
    Frame id request fun {α} (action _ : Action σ α) => FailsOnly NoReply action where
  pure a := failsOnly_of_done fun _ => ⟨a, rfl⟩
  bind := FailsOnly.bind
  unreachable detail := failsOnly_fail (.keyBrokerUnreachable detail)
  failIfCancelled := failsOnly_failIfCancelled .cancelled
  send := failsOnly_of_done fun _ => ⟨_, rfl⟩
  ask _ _ _ hnext := (failsOnly_of_done fun _ => ⟨_, rfl⟩).bind hnext
  cancelIf cancels := failsOnly_of_done fun _ => by cases cancels <;> exact ⟨(), rfl⟩
  waited _ := failsOnly_of_done fun _ => ⟨(), rfl⟩
  now := failsOnly_of_done fun s => ⟨s.now, rfl⟩
  waitUntil := failsOnly_waitUntil .timeout .cancelled

/-- Key pairs of the least length are made, from whatever primes are found, or none is made. -/
def MakesPairs (peers : Peers σ) : Prop :=
  ∀ world, (∃ primes, (peers.makeKeyPair world).1 =
      Rsa.KeyPair.generate Rsa.minimumBits primes) ∨
    ∃ detail, (peers.makeKeyPair world).1 = .error (.keyGeneration detail)

/-- Evidence that is not there is reported as unavailable. -/
def ReportsUnavailable (peers : Peers σ) : Prop :=
  ∀ binding world error, (peers.collectEvidence binding world).1 = .error (.reported error) →
    ∃ detail, error = .evidenceUnavailable detail

variable {peers : Peers σ}

/-- Before there is a pair, a call fails because the time is up or because none was made. -/
theorem failsOnly_makeKeyPair (h : MakesPairs peers) : FailsOnly NoReply (makeKeyPair peers) := by
  intro s e hfailed
  unfold makeKeyPair at hfailed
  rw [ask_bind, note_bind] at hfailed
  refine ((failsOnly_failIfExpired .timeout).bind fun _ => ?_ : FailsOnly NoReply _) _ _ hfailed
  rcases h s.world with ⟨primes, hmade⟩ | ⟨detail, hmade⟩
  · rw [hmade]
    exact failsOnly_of_done fun _ => ⟨_, rfl⟩
  · rw [hmade]
    exact failsOnly_fail (.cryptoInit detail)

/-- Before there is evidence, a call fails because it is unavailable. -/
theorem failsOnly_collectEvidence (h : ReportsUnavailable peers) (binding : Bytes) :
    FailsOnly NoReply (collectEvidence peers binding) := by
  intro s e hfailed
  unfold collectEvidence at hfailed
  rw [note_bind, ask_bind] at hfailed
  cases hevidence : (peers.collectEvidence binding s.world).1 with
  | ok quote =>
      rw [hevidence] at hfailed
      exact absurd hfailed nofun
  | error failure =>
      rw [hevidence] at hfailed
      cases failure with
      | crashed =>
          obtain rfl := Outcome.failed.inj hfailed
          exact .evidenceUnavailable _
      | reported error =>
          obtain rfl := Outcome.failed.inj hfailed
          obtain ⟨detail, rfl⟩ := h binding s.world error hevidence
          exact .evidenceUnavailable detail

/-- An exchange as far as a reply: the pair that was made, and the response of status 200. -/
def askForKey (peers : Peers σ) (policy : RetryPolicy) (serverUrl keyId : String) :
    Action σ (Rsa.KeyPair × Http.Response) := do
  let pair ← makeKeyPair peers
  let quote ← collectEvidence peers (Text.Utf8.encode (userData pair))
  let response ← post peers policy (transferRequest serverUrl keyId quote (userData pair))
  return (pair, response)

variable {policy : RetryPolicy} {serverUrl keyId : String}

/-- Behind the reply there is nothing but its opening. -/
theorem exchange_eq (peers : Peers σ) (policy : RetryPolicy) (serverUrl keyId : String) :
    exchange peers policy serverUrl keyId = (do
      let reply ← askForKey peers policy serverUrl keyId
      Action.ofExcept (openReply reply.1 reply.2.body)) := by
  rw [askForKey, bind_assoc]
  refine congrArg _ (funext fun pair => ?_)
  rw [bind_assoc]
  refine congrArg _ (funext fun quote => ?_)
  rw [bind_assoc]
  rfl

/-- **As far as the reply, a call fails because no reply has come.** -/
theorem failsOnly_askForKey (hpairs : MakesPairs peers) (hevidence : ReportsUnavailable peers) :
    FailsOnly NoReply (askForKey peers policy serverUrl keyId) :=
  (failsOnly_makeKeyPair hpairs).bind fun _ => (failsOnly_collectEvidence hevidence _).bind fun _ =>
    ((frame_noReply _).post peers policy).bind fun _ => failsOnly_of_done fun _ => ⟨_, rfl⟩

/-- A settled answer gives a response if it is one of status 200, or if what comes after a failed
connection gives it. -/
theorem settle_eq_done_iff {url : String} {answer : Except TransportFault Http.Response}
    {onConnect : String → Action σ Http.Response} {response : Http.Response} {s t : Session σ} :
    settle url answer onConnect s = (.done response, t) ↔
      (answer = .ok response ∧ response.status = 200 ∧ t = s) ∨
        ∃ detail, answer = .error (.connect detail) ∧ onConnect detail s = (.done response, t) := by
  unfold settle
  split
  · rename_i found
    by_cases hstatus : found.status = 200
    · simp only [hstatus, if_true, pure_apply, Prod.mk.injEq, Outcome.done.injEq, Except.ok.injEq,
        reduceCtorEq, false_and, exists_false, or_false]
      constructor
      · rintro ⟨rfl, rfl⟩
        exact ⟨rfl, hstatus, rfl⟩
      · rintro ⟨rfl, -, rfl⟩
        exact ⟨rfl, rfl⟩
    · rw [if_neg hstatus]
      refine ⟨fun h => absurd h nofun, ?_⟩
      rintro (⟨heq, hstatus', -⟩ | ⟨detail, heq, -⟩)
      · obtain rfl := Except.ok.inj heq
        exact absurd hstatus' hstatus
      · exact absurd heq nofun
  · simp
  · simp [fail]

/-- The last request since a session was answered with a response of status 200. -/
structure LastAnswered (peers : Peers σ) (world : σ) (s t : Session σ) (response : Http.Response) :
    Prop where
  status : response.status = 200
  last : ∃ last, (reactions peers (transfers (s.since t)) world).getLast? = some last ∧
    last.2.answer = some (.ok response)

section
variable {request : Http.Request} {response : Http.Response} {reaction : Reaction} {world : σ}
  {s t u v : Session σ} (hpost : peers.post request s.world = (reaction, world))
  (hattempted : Attempted request reaction world s t)
include hpost hattempted

/-- An attempt that is answered with status 200 is the last one of its run. -/
theorem LastAnswered.ended (hstatus : response.status = 200)
    (hanswer : reaction.answer = some (.ok response)) :
    LastAnswered peers s.world s t response := by
  have hattempts := hattempted.reactions_since hpost (.refl t) (List.append_nil t.events).symm
  rw [Session.since_self, transfers_nil, reactions] at hattempts
  exact ⟨hstatus, (s.now, reaction), by rw [hattempts]; rfl, hanswer⟩

/-- The last attempt of a run is the last one of the run behind its first attempt. -/
theorem LastAnswered.again (hquiet : Quiet t u) {more : List Event}
    (hmore : v.events = u.events ++ more) (h : LastAnswered peers u.world u v response) :
    LastAnswered peers s.world s v response := by
  obtain ⟨last, hlast, hanswer⟩ := h.last
  refine ⟨h.status, last, ?_, hanswer⟩
  rw [hattempted.reactions_since hpost hquiet hmore, List.getLast?_cons, hlast]
  rfl

end

/-- An attempt gives what its reaction answers. -/
theorem attempted_of_answer {request : Http.Request} {reaction : Reaction} {world : σ}
    {s t : Session σ} {answer : Except TransportFault Http.Response}
    (hpost : peers.post request s.world = (reaction, world))
    (h : attempt peers request s = (.done answer, t)) :
    Attempted request reaction world s t ∧ reaction.answer = some answer := by
  have hends := attempt_ends hpost
  rw [h] at hends
  cases hends with
  | answered attempted answer_eq => exact ⟨attempted, answer_eq⟩

/-- **A transfer gives the response that its last request was answered with**, and it is one of
status 200. -/
theorem lastAnswered_of_postFrom {request : Http.Request} {number further : Nat}
    {response : Http.Response} {s t : Session σ}
    (h : postFrom peers policy request number further s = (.done response, t)) :
    LastAnswered peers s.world s t response := by
  induction further generalizing number s with
  | zero =>
      obtain ⟨answer, u, hattempt, hsettle⟩ := bind_eq_done_iff.mp h
      obtain ⟨hattempted, hanswer⟩ := attempted_of_answer rfl hattempt
      rcases settle_eq_done_iff.mp hsettle with ⟨rfl, hstatus, rfl⟩ | ⟨detail, -, hconnect⟩
      · exact .ended rfl hattempted hstatus hanswer
      · exact absurd hconnect nofun
  | succ further ih =>
      obtain ⟨answer, u, hattempt, hsettle⟩ := bind_eq_done_iff.mp h
      obtain ⟨hattempted, hanswer⟩ := attempted_of_answer rfl hattempt
      rcases settle_eq_done_iff.mp hsettle with ⟨rfl, hstatus, rfl⟩ | ⟨detail, -, hconnect⟩
      · exact .ended rfl hattempted hstatus hanswer
      · obtain ⟨_, v, hpause, hrest⟩ := bind_eq_done_iff.mp hconnect
        have hends := pause_ends peers.longestSleep (policy.backoffAfter number) u
        rw [hpause] at hends
        obtain ⟨more, hmore⟩ := (frame_adds request).postFrom peers policy (number + 1) further v
        rw [hrest] at hmore
        cases hends with
        | passed quiet => exact .again rfl hattempted quiet hmore.events_eq (ih hrest)

/-- The pair that an exchange goes on with is the one that was made. -/
theorem made_of_makeKeyPair {s t : Session σ} {pair : Rsa.KeyPair}
    (h : makeKeyPair peers s = (.done pair, t)) :
    (peers.makeKeyPair s.world).1 = .ok pair ∧ t.world = (peers.makeKeyPair s.world).2 ∧
      t.events = s.events ++ [.madeKeyPair (.ok pair)] := by
  rcases makeKeyPair_ends peers s with ⟨e, hfailed⟩ | ⟨made, hmade, hdone⟩
  · exact absurd (h.symm.trans hfailed) nofun
  · obtain ⟨rfl, rfl⟩ := done_unique h hdone
    exact ⟨hmade, rfl, by rw [hmade]⟩

/-- Collected evidence leaves the event of its binding. -/
theorem collected_of_collectEvidence {s t : Session σ} {binding quote : Bytes}
    (h : collectEvidence peers binding s = (.done quote, t)) :
    t.world = (peers.collectEvidence binding s.world).2 ∧
      t.events = s.events ++ [.boundEvidence binding] := by
  rcases collectEvidence_ends peers binding s with ⟨failure, e, -, hfailed⟩ | ⟨quote', -, hdone⟩
  · exact absurd (h.symm.trans hfailed) nofun
  · obtain ⟨-, rfl⟩ := done_unique h hdone
    exact ⟨rfl, rfl⟩

/-- An exchange that gets a reply gets it for the pair that was made, as the answer to its last
request. -/
theorem lastAnswered_of_askForKey {s t : Session σ} {pair : Rsa.KeyPair}
    {response : Http.Response}
    (h : askForKey peers policy serverUrl keyId s = (.done (pair, response), t)) :
    (peers.makeKeyPair s.world).1 = .ok pair ∧
      LastAnswered peers (peers.collectEvidence (Text.Utf8.encode (userData pair))
        (peers.makeKeyPair s.world).2).2 s t response := by
  obtain ⟨made, u, hmake, h⟩ := bind_eq_done_iff.mp h
  obtain ⟨quote, v, hcollect, h⟩ := bind_eq_done_iff.mp h
  obtain ⟨answer, w, hpost, hreply⟩ := bind_eq_done_iff.mp h
  obtain ⟨heq, rfl⟩ := Prod.mk.inj hreply
  obtain ⟨rfl, rfl⟩ := Prod.mk.inj (Outcome.done.inj heq)
  obtain ⟨hmade, hworld, hevents⟩ := made_of_makeKeyPair hmake
  obtain ⟨hworld', hevents'⟩ := collected_of_collectEvidence hcollect
  have hlast := lastAnswered_of_postFrom hpost
  -- neither of the two steps before has sent a request
  have hsent := ((frame_adds (transferRequest serverUrl keyId quote (userData made))).post peers
    policy).events_eq v
  rw [hpost, hevents', hevents, List.append_assoc, List.append_assoc] at hsent
  have hsince : transfers (s.since w) = transfers (v.since w) := by
    rw [Session.since_of_append hsent]
    rfl
  rw [hworld', hworld] at hlast
  exact ⟨hmade, hlast.status, hsince ▸ hlast.last⟩

end Broker

end AttestedModel
