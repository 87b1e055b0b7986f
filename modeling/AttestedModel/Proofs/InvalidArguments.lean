import AttestedModel.Proofs.KeyAnswers
import AttestedModel.Proofs.ReplyRefusals

/-!
# When the argument of a key request is invalid

A key request ends in one of three ways: an argument is missing and nothing happens, no
reply comes, or the reply that came is opened or rejected (`Received`).  Which of them
call an argument invalid is read off each of them, and the three are told apart once
(`getKey_invalidArgument_iff`).

Beside a missing argument there is one kind of reply that does so, the unfit one: its
keys are readable and the one unwraps the other, but a length among them is none that
opening takes.
-/

namespace AttestedModel.Broker

open AttestedModel.Action

variable {σ : Type} {peers : Peers σ} {policy : RetryPolicy} {serverUrl keyId : String}

/-- A call with both arguments gets a reply of status 200 in time, for a pair. -/
structure Received (peers : Peers σ) (policy : RetryPolicy) (serverUrl keyId : String)
    (limit : Option Duration) (s : Session σ) (pair : Rsa.KeyPair) (response : Http.Response) :
    Prop where
  given : ¬ (Text.blank serverUrl ∨ Text.blank keyId)
  asked : (within limit (askForKey peers policy serverUrl keyId) s).1 = .done (pair, response)

variable {limit : Option Duration} {s : Session σ} {pair : Rsa.KeyPair} {response : Http.Response}

/-- A call that has got a reply ends as the reply opens, and where it got it. -/
theorem Received.ends (h : Received peers policy serverUrl keyId limit s pair response) :
    ∃ t, askForKey peers policy serverUrl keyId
        { s with deadline := limit.map fun length => s.now + length.milliseconds } =
          (.done (pair, response), t) ∧
      getKey peers policy serverUrl keyId limit s =
        ((Action.ofExcept (openReply pair response.body) t).1,
          { t with deadline := s.deadline }) := by
  obtain ⟨hgiven, hasked⟩ := h
  rw [getKey_eq_within hgiven, exchange_eq]
  simp only [within] at hasked ⊢
  generalize hrun : askForKey peers policy serverUrl keyId
    { s with deadline := limit.map fun length => s.now + length.milliseconds } = run at hasked
  obtain ⟨outcome, t⟩ := run
  obtain rfl : outcome = .done (pair, response) := hasked
  refine ⟨t, rfl, ?_⟩
  rw [bind_of_done _ hrun, ofExcept_snd]

/-- A reply that can be opened decides the call: its key is the result. -/
theorem Received.getKey_of_opened (h : Received peers policy serverUrl keyId limit s pair response)
    {key : Bytes} (hopened : openReply pair response.body = .ok key) :
    (getKey peers policy serverUrl keyId limit s).1 = .done key := by
  obtain ⟨t, -, hends⟩ := h.ends
  rw [hends, hopened]
  rfl

/-- A reply that is rejected decides the call as well: it fails with the reason. -/
theorem Received.getKey_of_rejected {e : LoadError}
    (h : Received peers policy serverUrl keyId limit s pair response)
    (hrejected : Rejected pair response.body e) :
    (getKey peers policy serverUrl keyId limit s).1 = .failed e := by
  obtain ⟨t, -, hends⟩ := h.ends
  rw [hends, openReply_of_rejected hrejected]
  rfl

/-- A call that has got a reply gives its key, or fails as the reply is rejected. -/
theorem Received.getKey_cases (h : Received peers policy serverUrl keyId limit s pair response) :
    let run := getKey peers policy serverUrl keyId limit s
    (∃ key, openReply pair response.body = .ok key ∧ run.1 = .done key) ∨
      ∃ e, Rejected pair response.body e ∧ run.1 = .failed e ∧
        (Unfit pair response.body ∨ BadReply e) := by
  rcases opened_or_rejected pair response.body with ⟨key, hopened⟩ | ⟨e, hrejected⟩
  · exact .inl ⟨key, hopened, h.getKey_of_opened hopened⟩
  · exact .inr ⟨e, hrejected, h.getKey_of_rejected hrejected,
      hrejected.unfit_or_bad.imp_left And.left⟩

/-- A call that lacks an argument says so, and changes nothing. -/
theorem invalidArgument_of_blank (h : Text.blank serverUrl ∨ Text.blank keyId) :
    ∃ detail, getKey peers policy serverUrl keyId limit s =
      (.failed (.invalidArgument detail), s) := by
  unfold getKey
  split
  · exact ⟨_, rfl⟩
  · rw [if_pos (h.resolve_left ‹_›)]
    exact ⟨_, rfl⟩

/-- A call with both arguments that has got no reply fails for want of it. -/
theorem noReply_of_not_received (hpairs : MakesPairs peers) (hevidence : ReportsUnavailable peers)
    (hgiven : ¬ (Text.blank serverUrl ∨ Text.blank keyId))
    (hnone : ∀ pair response, ¬ Received peers policy serverUrl keyId limit s pair response)
    {e : LoadError} (hfailed : (getKey peers policy serverUrl keyId limit s).1 = .failed e) :
    NoReply e := by
  have hkinds := @failsOnly_askForKey _ _ policy serverUrl keyId hpairs hevidence
    { s with deadline := limit.map fun length => s.now + length.milliseconds }
  rw [getKey_eq_within hgiven, exchange_eq] at hfailed
  simp only [within, Bind.bind] at hfailed
  cases hrun : askForKey peers policy serverUrl keyId
      { s with deadline := limit.map fun length => s.now + length.milliseconds } with
  | mk outcome t =>
      rw [hrun] at hfailed hkinds
      cases outcome with
      | done reply =>
          refine absurd ⟨hgiven, ?_⟩ (hnone reply.1 reply.2)
          simp only [within, hrun]
      | failed e' =>
          obtain rfl := Outcome.failed.inj hfailed
          exact hkinds _ rfl
      | never => cases hfailed

/-- A reply is what the last request of the call was answered with. -/
theorem Received.lastAnswered (h : Received peers policy serverUrl keyId limit s pair response) :
    (peers.makeKeyPair s.world).1 = .ok pair ∧
      LastAnswered peers (peers.collectEvidence (Text.Utf8.encode (userData pair))
        (peers.makeKeyPair s.world).2).2 s (getKey peers policy serverUrl keyId limit s).2
          response := by
  obtain ⟨t, hasked, hends⟩ := h.ends
  obtain ⟨hmade, hlast⟩ := lastAnswered_of_askForKey hasked
  rw [hends]
  exact ⟨hmade, hlast.status, hlast.last⟩

/-- **When a key request has an invalid argument.**  Let key pairs of the least length be made, and
let evidence fail as unavailable only.  Then a call fails with an invalid argument exactly if its
address or its identifier is blank, or it has got a reply of status 200 that is unfit: its two keys
are readable and the second one unwraps, but the envelope or the unwrapped key is empty, or the
envelope is well-formed and the unwrapped key has not 16, 24 or 32 bytes.

A call with a blank argument changes nothing, and so sends no request.  A reply is what the last
request was answered with, for the pair that was made; it opens, or is rejected, and if it is not
unfit it is rejected as malformed, for its wrapping, for its framing or for its tag.  A call without
a reply fails for want of a pair, of evidence or of a reply. -/
theorem getKey_invalidArgument_iff (peers : Peers σ) (hpairs : MakesPairs peers)
    (hevidence : ReportsUnavailable peers) (policy : RetryPolicy) (serverUrl keyId : String)
    (limit : Option Duration) (s : Session σ) :
    let run := getKey peers policy serverUrl keyId limit s
    let blank := Text.blank serverUrl ∨ Text.blank keyId
    let received := Received peers policy serverUrl keyId limit s
    ((∃ detail, run.1 = .failed (.invalidArgument detail)) ↔
      blank ∨ ∃ pair response, received pair response ∧ Unfit pair response.body) ∧
    (blank → run.2 = s) ∧
    (∀ pair response, received pair response →
      (peers.makeKeyPair s.world).1 = .ok pair ∧
      LastAnswered peers (peers.collectEvidence (Text.Utf8.encode (userData pair))
        (peers.makeKeyPair s.world).2).2 s run.2 response ∧
      ((∃ key, openReply pair response.body = .ok key ∧ run.1 = .done key) ∨
        ∃ e, Rejected pair response.body e ∧ run.1 = .failed e ∧
          (Unfit pair response.body ∨ BadReply e))) ∧
    (¬ blank → (∀ pair response, ¬ received pair response) →
      ∀ e, run.1 = .failed e → NoReply e) := by
  intro run blank received
  have hnone : ¬ blank → (∀ pair response, ¬ received pair response) →
      ∀ e, run.1 = .failed e → NoReply e := fun hgiven hnone e hfailed =>
    noReply_of_not_received hpairs hevidence hgiven hnone hfailed
  have hblank : blank → ∃ detail, run = (.failed (.invalidArgument detail), s) :=
    invalidArgument_of_blank
  refine ⟨⟨fun hinvalid => ?_, fun hcause => ?_⟩, fun hmissing => ?_,
    fun pair response hreceived => ?_, hnone⟩
  · obtain ⟨detail, hfailed⟩ := hinvalid
    by_contra hcause
    obtain ⟨hgiven, hfit⟩ := not_or.mp hcause
    -- without a blank argument and an unfit reply, the failure is of another kind
    by_cases hreceived : ∃ pair response, received pair response
    · obtain ⟨pair, response, hreceived⟩ := hreceived
      rcases hreceived.getKey_cases with ⟨key, -, hdone⟩ | ⟨e, -, hrun, hkind⟩
      · exact absurd (hdone.symm.trans hfailed) nofun
      · obtain rfl := Outcome.failed.inj (hrun.symm.trans hfailed)
        rcases hkind with hunfit | hbad
        · exact hfit ⟨pair, response, hreceived, hunfit⟩
        · exact absurd hbad nofun
    · have hkind := hnone hgiven (fun pair response h => hreceived ⟨pair, response, h⟩) _ hfailed
      exact absurd hkind nofun
  · rcases hcause with hmissing | ⟨pair, response, hreceived, hunfit⟩
    · obtain ⟨detail, hrun⟩ := hblank hmissing
      exact ⟨detail, congrArg Prod.fst hrun⟩
    · obtain ⟨detail, hopen⟩ := openReply_eq_invalidArgument_iff.mpr hunfit
      exact ⟨detail, hreceived.getKey_of_rejected (openReply_eq_error_iff.mp hopen)⟩
  · obtain ⟨detail, hrun⟩ := hblank hmissing
    exact congrArg Prod.snd hrun
  · obtain ⟨hmade, hlast⟩ := hreceived.lastAnswered
    exact ⟨hmade, hlast, hreceived.getKey_cases⟩

/-- A response that carries a reply. -/
def TransferReply.served (reply : TransferReply) : Http.Response :=
  ⟨200, Text.Utf8.encode reply.toJson.toCompact⟩

/-- What is served of a reply is read as the reply. -/
theorem TransferReply.read?_served (reply : TransferReply) :
    read? reply.served.body = some reply :=
  reply.read_written

/-- Peers with the pair of 3092 bits and some evidence, and a key broker that has one reply. -/
def replying (reply : TransferReply) : Peers Unit where
  makeKeyPair world := (.ok Rsa.samplePair, world)
  collectEvidence _ world := (.ok [1, 2, 3], world)
  post _ world := (.immediate (.ok reply.served), world)

theorem makesPairs_replying (reply : TransferReply) : MakesPairs (replying reply) :=
  fun _ => .inl ⟨(Rsa.samplePair.p, Rsa.samplePair.q), rfl⟩

theorem reportsUnavailable_replying (reply : TransferReply) : ReportsUnavailable (replying reply) :=
  fun _ _ _ h => absurd h nofun

/-- A session in which nothing has happened. -/
def beforeReply : Session Unit :=
  .start () ⟨[], []⟩

/-- A broker with one reply answers the first request with it. -/
theorem received_replying (reply : TransferReply) :
    Received (replying reply) .standard "http://k" "i" none beforeReply Rsa.samplePair
      reply.served where
  given := by decide
  asked := rfl

/-- A key that is wrapped as it should be, for an envelope that is not there. -/
def emptyReply : TransferReply where
  wrappedKey := some (Text.Base64.encode [])
  wrappedSwk := some (Text.Base64.encode ((Rsa.wrap Rsa.samplePair.publicKeyDer
    (List.replicate 16 7) (List.replicate 32 9)).toOption.getD []))

/-- The empty reply unwraps to an envelope without a byte, under a key of 16 bytes. -/
theorem unwraps_emptyReply :
    Unwraps Rsa.samplePair emptyReply.served.body [] (List.replicate 16 7) := by
  have hroom : (List.replicate 16 (7 : UInt8)).length + Rsa.Oaep.overhead ≤
      Rsa.samplePair.publicKey.size := by
    have hsize := Rsa.sound_samplePair.size_least
    simp only [Rsa.Oaep.overhead, Rsa.Oaep.digestLength, List.length_replicate]
    omega
  obtain ⟨wrapped, hwrap, hunwrap⟩ := @Rsa.KeyPair.Sound.unwrap_wrap _ Rsa.sound_samplePair
    (List.replicate 16 7) (List.replicate 32 9) (by simp [Rsa.Oaep.digestLength]) hroom
  refine ⟨wrapped, ?_, hunwrap⟩
  rw [TransferReply.read?_served, emptyReply, hwrap]
  rfl

/-- An invalid argument where the caller has given both arguments and a request was sent. -/
theorem getKey_of_empty_reply :
    MakesPairs (replying emptyReply) ∧ ReportsUnavailable (replying emptyReply) ∧
      Text.blank "http://k" = false ∧ Text.blank "i" = false ∧
      let run := getKey (replying emptyReply) .standard "http://k" "i" none beforeReply
      run.1 = .failed (.invalidArgument "暗号化データが空です") ∧
        requests run.2 =
          [transferRequest "http://k" "i" [1, 2, 3] (userData Rsa.samplePair)] := by
  have hreceived := received_replying emptyReply
  have hrejected : Rejected Rsa.samplePair emptyReply.served.body
      (.invalidArgument "暗号化データが空です") := .sealed unwraps_emptyReply (.empty rfl)
  refine ⟨makesPairs_replying emptyReply, reportsUnavailable_replying emptyReply, by decide,
    by decide, hreceived.getKey_of_rejected hrejected, ?_⟩
  obtain ⟨t, hasked, hends⟩ := hreceived.ends
  rw [hends]
  exact (congrArg (fun run => requests run.2) hasked).symm

/-- A call that gets the empty reply fails with an invalid argument, as the reply is unfit. -/
theorem getKey_of_unfit_reply :
    Unfit Rsa.samplePair emptyReply.served.body ∧
      ∃ detail, (getKey (replying emptyReply) .standard "http://k" "i" none beforeReply).1 =
        .failed (.invalidArgument detail) := by
  have hunfit : Unfit Rsa.samplePair emptyReply.served.body :=
    ⟨[], _, unwraps_emptyReply, .inl rfl⟩
  have hinvalid := (getKey_invalidArgument_iff (replying emptyReply)
    (makesPairs_replying emptyReply) (reportsUnavailable_replying emptyReply) .standard "http://k"
    "i" none beforeReply).1
  exact ⟨hunfit, hinvalid.mpr (.inr ⟨_, _, received_replying emptyReply, hunfit⟩)⟩

end AttestedModel.Broker
